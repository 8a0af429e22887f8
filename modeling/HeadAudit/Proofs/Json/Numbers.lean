import HeadAudit.Proofs.Json.Reading

namespace HeadAudit.Json

open Reader

variable {n : Nat} {ds rest : List UInt8}

theorem take_toDigits (n : Nat) {k : Nat} (hk : 0 < k) :
    ∃ m ≤ n, (0 < n → 0 < m) ∧ (Nat.toDigits 10 n).take k = Nat.toDigits 10 m := by
  induction n using Nat.strong_induction_on with
  | _ n ih =>
    by_cases hl : (Nat.toDigits 10 n).length ≤ k
    · exact ⟨n, le_refl n, id, List.take_of_length_le hl⟩
    by_cases hn : n < 10
    · rw [Nat.toDigits_of_lt_base hn, List.length_singleton] at hl
      omega
    · obtain ⟨m, hm, hpos, he⟩ := ih (n / 10) (by omega)
      rw [Nat.toDigits_of_base_le (by decide) (by omega), List.length_append,
        List.length_singleton] at hl
      refine ⟨m, by omega, fun _ => hpos (by omega), ?_⟩
      rw [Nat.toDigits_of_base_le (by decide) (by omega),
        List.take_append_of_le_length (by omega), he]

theorem head?_toDigits (h : 0 < n) : (Nat.toDigits 10 n).head? ≠ some '0' := by
  induction n using Nat.strong_induction_on with
  | _ n ih =>
    by_cases hn : n < 10
    · rw [Nat.toDigits_of_lt_base hn]
      interval_cases n <;> decide
    · have hq := ih (n / 10) (by omega) (by omega)
      rw [Nat.toDigits_of_base_le (by decide) (by omega),
        List.head?_append_of_ne_nil _ Nat.toDigits_ne_nil]
      exact hq

def digitBytes (n : Nat) : List UInt8 := (Nat.toDigits 10 n).map fun c => UInt8.ofNat c.toNat

theorem toNat_digit {c : Char} (h : c.isDigit) :
    48 ≤ c.toNat ∧ c.toNat ≤ 57 ∧ (UInt8.ofNat c.toNat).toNat = c.toNat := by
  have hd : 48 ≤ c.toNat ∧ c.toNat ≤ 57 := Char.isDigit_iff_toNat.mp h
  exact ⟨hd.1, hd.2, Utf8.toNat_ofNat_of_lt (by omega)⟩

theorem isDigit_of_mem {b : UInt8} (h : b ∈ digitBytes n) : isDigit b := by
  obtain ⟨c, hc, rfl⟩ := List.mem_map.mp h
  obtain ⟨hl, hu, he⟩ := toNat_digit (Nat.isDigit_of_mem_toDigits (by decide) (by decide) hc)
  rw [isDigit, Bool.and_eq_true, decide_eq_true_iff, decide_eq_true_iff]
  exact ⟨UInt8.le_iff_toNat_le.mpr (by rw [he]; exact hl),
    UInt8.le_iff_toNat_le.mpr (by rw [he]; exact hu)⟩

theorem encode_toString (n : Nat) : Utf8.encode (toString n) = digitBytes n := by
  have hc : ∀ c ∈ Nat.toDigits 10 n, String.utf8EncodeChar c = [UInt8.ofNat c.toNat] := by
    intro c hc
    have hd := toNat_digit (Nat.isDigit_of_mem_toDigits (by decide) (by decide) hc)
    exact Utf8.encodeChar_of_ascii (by omega)
  rw [Nat.toString_eq_ofList_toDigits, Utf8.encode_ofList, List.flatMap_congr hc, digitBytes,
    List.map_eq_flatMap]

theorem absorb_digits {cs : List Char} (hd : ∀ c ∈ cs, c.isDigit) {start : Nat}
    (h : Nat.ofDigitChars 10 cs start < wordEnd) :
    absorb start (cs.map fun c => UInt8.ofNat c.toNat) = (Nat.ofDigitChars 10 cs start, 0) := by
  induction cs generalizing start with
  | nil => rfl
  | cons c cs ih =>
    obtain ⟨-, -, he⟩ := toNat_digit (hd c List.mem_cons_self)
    have hn : start * 10 + ((UInt8.ofNat c.toNat).toNat - 0x30) =
        10 * start + (c.toNat - '0'.toNat) := by
      rw [he, Nat.mul_comm]
      rfl
    rw [Nat.ofDigitChars_cons] at h ⊢
    have hle : Nat.ofDigitChars 10 cs (10 * start + (c.toNat - '0'.toNat)) =
        10 ^ cs.length * (10 * start + (c.toNat - '0'.toNat)) + Nat.ofDigitChars 10 cs 0 :=
      Nat.ofDigitChars_eq_ofDigitChars_zero
    have hp : 10 * start + (c.toNat - '0'.toNat) ≤
        10 ^ cs.length * (10 * start + (c.toNat - '0'.toNat)) :=
      Nat.le_mul_of_pos_left _ (Nat.pow_pos (by decide))
    rw [List.map_cons, absorb, hn, if_pos (by omega)]
    exact ih (fun d hm => hd d (List.mem_cons_of_mem c hm)) h

theorem absorb_digitBytes (h : n < wordEnd) : absorb 0 (digitBytes n) = (n, 0) := by
  have hd : ∀ c ∈ Nat.toDigits 10 n, c.isDigit := fun c hc =>
    Nat.isDigit_of_mem_toDigits (by decide) (by decide) hc
  have ha : Nat.ofDigitChars 10 (Nat.toDigits 10 n) 0 < wordEnd := by
    rwa [Nat.ofDigitChars_ten_toDigits]
  rw [digitBytes, absorb_digits hd ha, Nat.ofDigitChars_ten_toDigits]

inductive Behind : List UInt8 → Prop where
  | nil : Behind []
  | comma (rest : List UInt8) : Behind (comma :: rest)
  | close (rest : List UInt8) : Behind (closeObject :: rest)

theorem digits_append (hds : ∀ b ∈ ds, isDigit b) (hr : Behind rest) :
    digits (ds ++ rest) = .ok (ds, rest) := by
  have hrest : rest.takeWhile isDigit = [] ∧ rest.dropWhile isDigit = rest := by
    cases hr <;> exact ⟨rfl, rfl⟩
  change Except.ok _ = _
  simp only [List.takeWhile_append_of_pos hds, List.dropWhile_append_of_pos hds, hrest,
    List.append_nil]

/-- Digits without a needless zero in front and without an overflow are a whole number. -/
theorem number_digits {d : UInt8} (hd : isDigit d) (hds : ∀ b ∈ ds, isDigit b)
    (hz : d = 0x30 → ds = []) (ha : absorb 0 (d :: ds) = (n, 0)) (hr : Behind rest)
    (negative : Bool) :
    number negative (d :: (ds ++ rest)) = .ok (if negative then
      if 0 < n ∧ n ≤ signedEnd then .whole (-n) else .real else .whole n, rest) := by
  by_cases h0 : d = 0x30
  · obtain rfl := hz h0
    subst h0
    obtain rfl : 0 = n := congrArg Prod.fst ha
    cases negative <;> cases hr <;> rfl
  · have hb : (d == 0x30) = false := beq_eq_false_iff_ne.mpr h0
    unfold number
    rw [bind_ok (byte_cons d (ds ++ rest)), hd, hb]
    change (digits >>= fun more => _) (ds ++ rest) = _
    rw [bind_ok (digits_append hds hr)]
    simp only [ha]
    cases negative <;> cases hr <;> rfl

theorem exists_digitBytes (n : Nat) : ∃ d ds, digitBytes n = d :: ds ∧ (d = 0x30 → ds = []) := by
  obtain ⟨c, cs, hc⟩ := List.exists_cons_of_ne_nil (Nat.toDigits_ne_nil (n := n) (b := 10))
  refine ⟨UInt8.ofNat c.toNat, cs.map fun c => UInt8.ofNat c.toNat, by rw [digitBytes, hc]; rfl,
    fun h0 => ?_⟩
  have hm : c ∈ Nat.toDigits 10 n := hc ▸ List.mem_cons_self
  obtain ⟨-, -, he⟩ := toNat_digit (Nat.isDigit_of_mem_toDigits (by decide) (by decide) hm)
  have hz : c = '0' := by
    rw [h0] at he
    exact Char.toNat_inj.mp he.symm
  rcases Nat.eq_zero_or_pos n with rfl | hn
  · rw [Nat.toDigits_zero] at hc
    rw [← (List.cons.inj hc).2]
    rfl
  · exact absurd (by rw [hc, hz]; rfl) (head?_toDigits hn)

theorem number_digitBytes (h : n < wordEnd) (hr : Behind rest) (negative : Bool) :
    number negative (digitBytes n ++ rest) = .ok (if negative then
      if 0 < n ∧ n ≤ signedEnd then .whole (-n) else .real else .whole n, rest) := by
  obtain ⟨d, ds, hd, hz⟩ := exists_digitBytes n
  have ha := absorb_digitBytes h
  have hm : ∀ b ∈ d :: ds, isDigit b := fun b hb => isDigit_of_mem (hd ▸ hb)
  rw [hd] at ha ⊢
  exact number_digits (hm d List.mem_cons_self) (fun b hb => hm b (List.mem_cons_of_mem d hb)) hz ha
    hr negative

theorem integer_minus {input : List UInt8} {i : Int}
    (h : number true input = .ok (.whole i, rest)) (hi : i < signedEnd) :
    integer (minus :: input) = .ok (i, rest) := by
  unfold integer
  rw [bind_ok (peekByte_cons rfl input)]
  change (advance >>= fun _ => number true >>= _) (minus :: input) = _
  rw [bind_ok (advance_cons minus input), bind_ok h]
  simp only [if_pos hi]
  rfl

theorem isBlank_digit {b : UInt8} (h : isDigit b) : isBlank b = false ∧ (b == minus) = false := by
  rw [isDigit, Bool.and_eq_true, decide_eq_true_iff] at h
  have hl : 48 ≤ b.toNat := UInt8.le_iff_toNat_le.mp h.1
  have hne : ∀ x : UInt8, x.toNat < 48 → (b == x) = false := fun x hx =>
    beq_eq_false_iff_ne.mpr fun he => by
      rw [he] at hl
      omega
  rw [isBlank, hne 0x20 (by decide), hne 0x0A (by decide), hne 0x09 (by decide),
    hne 0x0D (by decide)]
  exact ⟨rfl, hne minus (by decide)⟩

theorem integer_digit {d : UInt8} {input : List UInt8} {i : Int} (hd : isDigit d)
    (h : number false (d :: input) = .ok (.whole i, rest)) (hi : i < signedEnd) :
    integer (d :: input) = .ok (i, rest) := by
  obtain ⟨hb, hm⟩ := isBlank_digit hd
  unfold integer
  rw [bind_ok (peekByte_cons hb input), hm, hd]
  change (number false >>= _) (d :: input) = _
  rw [bind_ok h]
  simp only [if_pos hi]
  rfl

theorem integer_digitBytes (h : n < signedEnd) (hr : Behind rest) :
    integer (digitBytes n ++ rest) = .ok (n, rest) := by
  have hn := number_digitBytes (lt_trans h (by decide)) hr false
  obtain ⟨d, ds, hd, -⟩ := exists_digitBytes n
  have hm : isDigit d := isDigit_of_mem (n := n) (hd ▸ List.mem_cons_self)
  rw [hd] at hn ⊢
  exact integer_digit hm hn (Int.ofNat_lt.mpr h)

theorem integer_minus_digitBytes (hpos : 0 < n) (h : n ≤ signedEnd) (hr : Behind rest) :
    integer (minus :: (digitBytes n ++ rest)) = .ok (-n, rest) := by
  have hn := number_digitBytes (lt_of_le_of_lt h (by decide)) hr true
  rw [if_pos rfl, if_pos ⟨hpos, h⟩] at hn
  exact integer_minus hn (by omega)

theorem take_digitBytes (n : Nat) {k : Nat} (hk : 0 < k) :
    ∃ m ≤ n, (0 < n → 0 < m) ∧ (digitBytes n).take k = digitBytes m := by
  obtain ⟨m, hm, hpos, ht⟩ := take_toDigits n hk
  exact ⟨m, hm, hpos, by rw [digitBytes, ← List.map_take, ht, digitBytes]⟩

theorem behind_of_or {b : UInt8} (h : b = comma ∨ b = closeObject) (rest : List UInt8) :
    Behind (b :: rest) := by
  rcases h with rfl | rfl
  · exact .comma rest
  · exact .close rest

theorem reads_integer {i : Int} (hl : -signedEnd ≤ i) (hu : i < signedEnd) :
    Reads integer (Utf8.encode (Numeral.ofInt i)) i := by
  by_cases hneg : i < 0
  · have hm : Utf8.encode "-" = [minus] := by decide
    rw [Numeral.ofInt, if_pos hneg, Utf8.encode_append, encode_toString, hm]
    refine ⟨fun b rest h => ?_, fun k => ?_⟩
    · have hi := integer_minus_digitBytes (n := i.natAbs) (by omega) (by omega)
        (behind_of_or h rest)
      rwa [show -(i.natAbs : Int) = i by omega] at hi
    · match k with
      | 0 => exact .inl rfl
      | 1 => exact .inl rfl
      | k + 2 =>
        obtain ⟨m, hle, hpos, ht⟩ := take_digitBytes i.natAbs (k := k + 1) (by omega)
        have hi := integer_minus_digitBytes (n := m) (hpos (by omega)) (by omega) .nil
        rw [List.append_nil, ← ht] at hi
        exact .inr ⟨_, hi⟩
  · rw [Numeral.ofInt, if_neg hneg, encode_toString]
    refine ⟨fun b rest h => ?_, fun k => ?_⟩
    · have hi := integer_digitBytes (n := i.natAbs) (by omega) (behind_of_or h rest)
      rwa [show (i.natAbs : Int) = i by omega] at hi
    · match k with
      | 0 => exact .inl rfl
      | k + 1 =>
        obtain ⟨m, hle, -, ht⟩ := take_digitBytes i.natAbs (k := k + 1) (by omega)
        have hi := integer_digitBytes (n := m) (by omega) .nil
        rw [List.append_nil, ← ht] at hi
        exact .inr ⟨_, hi⟩

end HeadAudit.Json
