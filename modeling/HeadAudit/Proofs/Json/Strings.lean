import HeadAudit.Proofs.Json.Reading

namespace HeadAudit.Json

open Reader

variable {written denoted : List UInt8} {b : UInt8} {fuel : Nat}

/-- How the bytes between the quotes spell the bytes of a string. -/
inductive Spelled : List UInt8 → List UInt8 → Prop where
  | nil : Spelled [] []
  | plain {b : UInt8} {written denoted : List UInt8} (hq : b ≠ quote) (hs : b ≠ backslash)
      (hb : 0x20 ≤ b) (h : Spelled written denoted) : Spelled (b :: written) (b :: denoted)
  | escape {escaped bytes written denoted : List UInt8} (he : Exact Reader.escape escaped bytes)
      (h : Spelled written denoted) :
      Spelled (backslash :: (escaped ++ written)) (bytes ++ denoted)

theorem stringBytes_plain (hq : b ≠ quote) (hs : b ≠ backslash) (hb : 0x20 ≤ b)
    (input : List UInt8) :
    stringBytes (fuel + 1) (b :: input) =
      (stringBytes fuel >>= fun bytes => pure (b :: bytes)) input := by
  change (if (b == quote) = true then _ else if (b == backslash) = true then _ else
    if b < 0x20 then _ else _ : Reader (List UInt8)) input = _
  rw [if_neg (by simpa using hq), if_neg (by simpa using hs), if_neg (UInt8.not_lt.mpr hb)]

theorem stringBytes_escape (input : List UInt8) :
    stringBytes (fuel + 1) (backslash :: input) =
      (escape >>= fun bytes => stringBytes fuel >>= fun more => pure (bytes ++ more)) input :=
  rfl

theorem stringBytes_nil : stringBytes fuel [] = .error .truncated := by
  cases fuel <;> rfl

/-- With fuel for all of the bytes they are read; with any fuel a cut is noticed. -/
theorem stringBytes_spelled (h : Spelled written denoted) (fuel : Nat) :
    (written.length < fuel → Takes (stringBytes fuel) (written ++ [quote]) denoted) ∧
      Starves (stringBytes fuel) (written ++ [quote]) := by
  induction h generalizing fuel with
  | nil =>
    refine ⟨fun hf rest => ?_, fun n hn => ?_⟩
    · obtain ⟨fuel, rfl⟩ : ∃ k, fuel = k + 1 := ⟨fuel - 1, by simp at hf; omega⟩
      rfl
    · obtain rfl : n = 0 := by simpa using hn
      exact stringBytes_nil
  | plain hq hs hb _ ih =>
    cases fuel with
    | zero => exact ⟨fun hf => absurd hf (Nat.not_lt_zero _), fun _ _ => rfl⟩
    | succ fuel =>
      obtain ⟨iht, ihs⟩ := ih fuel
      refine ⟨fun hf rest => ?_, fun n hn => ?_⟩
      · have ht := iht (by simpa using hf) rest
        rw [List.cons_append, List.cons_append, stringBytes_plain hq hs hb, bind_ok ht]
        rfl
      · cases n with
        | zero => rfl
        | succ n =>
          rw [List.cons_append, List.take_succ_cons, stringBytes_plain hq hs hb]
          exact bind_error (ihs n (by simpa using hn))
  | @escape escaped bytes written denoted he _ ih =>
    cases fuel with
    | zero => exact ⟨fun hf => absurd hf (Nat.not_lt_zero _), fun _ _ => rfl⟩
    | succ fuel =>
      obtain ⟨iht, ihs⟩ := ih fuel
      refine ⟨fun hf rest => ?_, fun n hn => ?_⟩
      · have ht := iht (by simp at hf; omega)
        rw [List.cons_append, List.cons_append, stringBytes_escape, List.append_assoc escaped,
          List.append_assoc escaped, bind_ok (he.takes _), bind_ok (ht rest)]
        rfl
      -- The cut falls into the escape, or into what stands behind it.
      · have hb : Starves (stringBytes fuel >>= fun more => pure (bytes ++ more))
            (written ++ [quote]) := fun k hk => bind_error (ihs k hk)
        rw [List.cons_append, List.append_assoc] at hn ⊢
        cases n with
        | zero => rfl
        | succ n =>
          rw [List.take_succ_cons, stringBytes_escape]
          exact he.starves_bind hb n (by simpa using hn)

theorem exact_escape_short {c : UInt8} (h : shortEscape? b = some c) : Exact escape [b] [c] := by
  refine Exact.cons rfl (fun input => ?_) exact_pure
  rw [escape, bind_ok (byte_cons b input), h]

theorem exact_escape_unit {digits : List UInt8} {unit : Nat} (h : Exact hexUnit digits unit)
    (hu : unit < 0xD800) :
    Exact escape (0x75 :: digits) (String.utf8EncodeChar (Char.ofNat unit)) := by
  have hc : Exact unicodeEscape digits (Char.ofNat unit) := by
    rw [← List.append_nil digits, unicodeEscape]
    apply h.bind
    rw [if_neg (by omega), if_neg (by omega)]
    exact exact_pure
  refine Exact.cons rfl (fun _ => rfl) (?_ : Exact (unicodeEscape >>= fun c => pure _) _ _)
  exact hc.map String.utf8EncodeChar

theorem exact_hexUnit {a b c d : UInt8}
    (h : ([a, b, c, d].map fun x => Char.ofNat x.toNat).all Ascii.isHexDigit) :
    Exact hexUnit [a, b, c, d]
      (Ascii.valueIn 16 ([a, b, c, d].map fun x => Char.ofNat x.toNat)) where
  takes rest := by
    change (if _ then _ else _ : Reader Nat) rest = _
    rw [if_pos h]
    rfl
  starves n hn := by
    obtain rfl | rfl | rfl | rfl : n = 0 ∨ n = 1 ∨ n = 2 ∨ n = 3 := by
      simp only [List.length_cons, List.length_nil] at hn
      omega
    all_goals rfl

def escapedBytes (c : Char) : List UInt8 := (escapeChar c).flatMap String.utf8EncodeChar

def IsPlain (b : UInt8) : Prop := b ≠ quote ∧ b ≠ backslash ∧ 0x20 ≤ b

instance (b : UInt8) : Decidable (IsPlain b) := inferInstanceAs (Decidable (_ ∧ _ ∧ _))

theorem isPlain_of_le (h : 0x80 ≤ b.toNat) : IsPlain b := by
  refine ⟨?_, ?_, UInt8.le_iff_toNat_le.mpr (le_trans (by decide) h)⟩
  · rintro rfl
    exact absurd h (by decide)
  · rintro rfl
    exact absurd h (by decide)

theorem spelled_plain {bytes : List UInt8} (hb : ∀ b ∈ bytes, IsPlain b)
    (h : Spelled written denoted) :
    Spelled (bytes ++ written) (bytes ++ denoted) := by
  induction bytes with
  | nil => exact h
  | cons b bytes ih =>
    obtain ⟨hq, hs, hl⟩ := hb b List.mem_cons_self
    exact .plain hq hs hl (ih fun x hx => hb x (List.mem_cons_of_mem b hx))

def hexByte (n : Nat) : UInt8 := UInt8.ofNat (Ascii.lowerHexDigit n).toNat

def unitBytes (n : Nat) : List UInt8 := [0x75, 0x30, 0x30, hexByte (n / 16), hexByte (n % 16)]

theorem valueIn_control : ∀ n < 32,
    let digits := [0x30, 0x30, hexByte (n / 16), hexByte (n % 16)].map fun x => Char.ofNat x.toNat
    digits.all Ascii.isHexDigit ∧ Ascii.valueIn 16 digits = n := by
  decide

theorem exact_escape_control {n : Nat} (h : n < 32) :
    Exact escape (unitBytes n) (String.utf8EncodeChar (Char.ofNat n)) := by
  obtain ⟨hx, hv⟩ := valueIn_control n h
  have he := exact_hexUnit hx
  rw [hv] at he
  exact exact_escape_unit he (by omega)

theorem escapedBytes_ascii : ∀ n < 128,
    (∃ b ∈ [quote, backslash, 0x62, 0x66, 0x6E, 0x72, 0x74],
      escapedBytes (Char.ofNat n) = [backslash, b] ∧ shortEscape? b = some (UInt8.ofNat n)) ∨
    (n < 32 ∧ escapedBytes (Char.ofNat n) = backslash :: unitBytes n) ∨
    (escapedBytes (Char.ofNat n) = [UInt8.ofNat n] ∧ IsPlain (UInt8.ofNat n)) := by
  decide +kernel

theorem escapedBytes_of_le {c : Char} (h : 0x80 ≤ c.toNat) :
    escapedBytes c = String.utf8EncodeChar c := by
  have hne : ∀ d : Char, d.toNat < 0x80 → (c == d) = false := fun d hd =>
    beq_eq_false_iff_ne.mpr fun hc => by
      rw [hc] at h
      omega
  have hlt : ¬ c < ' ' := fun hc => by
    have hn : c.toNat < 32 := hc
    omega
  rw [escapedBytes, escapeChar]
  simp [hne, hlt]

theorem spelled_char (c : Char) (h : Spelled written denoted) :
    Spelled (escapedBytes c ++ written) (String.utf8EncodeChar c ++ denoted) := by
  by_cases hc : c.toNat < 128
  · have he := Utf8.encodeChar_of_ascii hc
    have ha := escapedBytes_ascii c.toNat hc
    rw [Char.ofNat_toNat] at ha
    obtain ⟨b, -, hb, hs⟩ | ⟨hn, hb⟩ | ⟨hb, hp⟩ := ha
    · rw [hb, he]
      exact .escape (exact_escape_short hs) h
    · have hx := exact_escape_control hn
      rw [Char.ofNat_toNat] at hx
      rw [hb]
      exact .escape hx h
    · rw [hb, he]
      exact .plain hp.1 hp.2.1 hp.2.2 h
  · have hl : 0x80 ≤ c.toNat := by omega
    rw [escapedBytes_of_le hl]
    exact spelled_plain (fun b hb => isPlain_of_le (Utf8.le_of_mem_encodeChar hl hb)) h

theorem spelled_chars (cs : List Char) :
    Spelled (cs.flatMap escapedBytes) (cs.flatMap String.utf8EncodeChar) := by
  induction cs with
  | nil => exact .nil
  | cons c cs ih =>
    rw [List.flatMap_cons, List.flatMap_cons]
    exact spelled_char c ih

theorem string_eq (input : List UInt8) :
    string input = (stringBytes (input.length + 1) >>= fun bytes =>
      match Utf8.decode? bytes with
      | some s => pure s
      | none => throw .malformed) input :=
  rfl

theorem exact_string (s : String) : Exact string (s.toList.flatMap escapedBytes ++ [quote]) s where
  takes rest := by
    have ht := (stringBytes_spelled (spelled_chars s.toList)
      ((s.toList.flatMap escapedBytes ++ [quote] ++ rest).length + 1)).1
        (by simp only [List.length_append]; omega) rest
    have hd : Utf8.decode? (s.toList.flatMap String.utf8EncodeChar) = some s :=
      Utf8.decode?_encode s
    rw [string_eq, bind_ok ht, hd]
    rfl
  starves n hn := by
    rw [string_eq]
    exact bind_error ((stringBytes_spelled (spelled_chars s.toList) _).2 n hn)

theorem encode_quoted (s : String) :
    Utf8.encode (quoted s) = quote :: (s.toList.flatMap escapedBytes ++ [quote]) := by
  have hq : String.utf8EncodeChar '"' = [quote] := by decide
  rw [quoted, Utf8.encode_ofList, List.flatMap_append, List.flatMap_cons, List.flatMap_assoc, hq,
    List.flatMap_singleton, hq]
  rfl

theorem exact_text (s : String) : Exact text (Utf8.encode (quoted s)) s := by
  rw [encode_quoted]
  exact Exact.cons rfl (fun _ => rfl) (exact_string s)

theorem exact_optionalText (s : String) :
    Exact optionalText (Utf8.encode (quoted s)) (some s) := by
  rw [encode_quoted]
  refine Exact.cons rfl (fun _ => rfl) (?_ : Exact (string >>= fun s => pure (some s)) _ _)
  exact (exact_string s).map some

theorem exact_bool (b : Bool) :
    Exact Reader.bool (Utf8.encode (if b then "true" else "false")) b := by
  cases b with
  | true =>
    have ht : Utf8.encode "true" = 0x74 :: trueTail := by decide
    rw [if_pos rfl, ht]
    exact Exact.cons rfl (fun _ => rfl) ((exact_literal trueTail).map fun _ => true)
  | false =>
    have ht : Utf8.encode "false" = 0x66 :: falseTail := by decide
    rw [if_neg Bool.false_ne_true, ht]
    exact Exact.cons rfl (fun _ => rfl) ((exact_literal falseTail).map fun _ => false)

end HeadAudit.Json
