import Mathlib
import HeadAudit.Text.Utf8

namespace HeadAudit.Utf8

variable {a b : UInt8} {rest : List UInt8} {x y z w : Nat}

theorem toNat_ofNat_of_lt {n : Nat} (h : n < 256) : (UInt8.ofNat n).toNat = n := by
  rw [UInt8.toNat_ofNat', Nat.mod_eq_of_lt h]

theorem not_lt_of_toNat (h : b.toNat ≤ a.toNat) : ¬ a < b :=
  UInt8.not_lt.mpr (UInt8.le_iff_toNat_le.mpr h)

theorem tail?_eq (hb : b.toNat = x + 0x80) (hx : x < 64) : tail? b = some x := by
  have hl : (0x80 : UInt8) ≤ b := UInt8.le_iff_toNat_le.mpr (show 0x80 ≤ b.toNat by omega)
  have hr : b ≤ 0xBF := UInt8.le_iff_toNat_le.mpr (show b.toNat ≤ 0xBF by omega)
  simp [tail?, hl, hr, hb]

theorem tail?_ofNat (hx : x < 64) : tail? (UInt8.ofNat (x + 0x80)) = some x :=
  tail?_eq (toNat_ofNat_of_lt (by omega)) hx

theorem char?_two (ha : a.toNat = x + 0xC0) (hx : x < 32) (hb : tail? b = some y) :
    char? (a :: b :: rest) = (scalar? 0x80 (x * 64 + y)).map (·, rest) := by
  have h1 : ¬ a < 0x80 := not_lt_of_toNat (show 0x80 ≤ a.toNat by omega)
  have h2 : ¬ a < 0xC0 := not_lt_of_toNat (show 0xC0 ≤ a.toNat by omega)
  have h3 : a < 0xE0 := UInt8.lt_iff_toNat_lt.mpr (show a.toNat < 0xE0 by omega)
  have hn : a.toNat - 0xC0 = x := by omega
  rw [char?, if_neg h1, if_neg h2, if_pos h3, hn]
  simp only [hb, Option.bind_eq_bind, Option.bind_some]
  cases scalar? 0x80 (x * 64 + y) <;> rfl

theorem char?_three {c : UInt8} (ha : a.toNat = x + 0xE0) (hx : x < 16) (hb : tail? b = some y)
    (hc : tail? c = some z) :
    char? (a :: b :: c :: rest) = (scalar? 0x800 ((x * 64 + y) * 64 + z)).map (·, rest) := by
  have h1 : ¬ a < 0x80 := not_lt_of_toNat (show 0x80 ≤ a.toNat by omega)
  have h2 : ¬ a < 0xC0 := not_lt_of_toNat (show 0xC0 ≤ a.toNat by omega)
  have h3 : ¬ a < 0xE0 := not_lt_of_toNat (show 0xE0 ≤ a.toNat by omega)
  have h4 : a < 0xF0 := UInt8.lt_iff_toNat_lt.mpr (show a.toNat < 0xF0 by omega)
  have hn : a.toNat - 0xE0 = x := by omega
  rw [char?, if_neg h1, if_neg h2, if_neg h3, if_pos h4, hn]
  simp only [hb, hc, Option.bind_eq_bind, Option.bind_some]
  cases scalar? 0x800 ((x * 64 + y) * 64 + z) <;> rfl

theorem char?_four {c d : UInt8} (ha : a.toNat = x + 0xF0) (hx : x < 8) (hb : tail? b = some y)
    (hc : tail? c = some z) (hd : tail? d = some w) :
    char? (a :: b :: c :: d :: rest) =
      (scalar? 0x10000 (((x * 64 + y) * 64 + z) * 64 + w)).map (·, rest) := by
  have h1 : ¬ a < 0x80 := not_lt_of_toNat (show 0x80 ≤ a.toNat by omega)
  have h2 : ¬ a < 0xC0 := not_lt_of_toNat (show 0xC0 ≤ a.toNat by omega)
  have h3 : ¬ a < 0xE0 := not_lt_of_toNat (show 0xE0 ≤ a.toNat by omega)
  have h4 : ¬ a < 0xF0 := not_lt_of_toNat (show 0xF0 ≤ a.toNat by omega)
  have h5 : a < 0xF8 := UInt8.lt_iff_toNat_lt.mpr (show a.toNat < 0xF8 by omega)
  have hn : a.toNat - 0xF0 = x := by omega
  rw [char?, if_neg h1, if_neg h2, if_neg h3, if_neg h4, if_pos h5, hn]
  simp only [hb, hc, hd, Option.bind_eq_bind, Option.bind_some]
  cases scalar? 0x10000 (((x * 64 + y) * 64 + z) * 64 + w) <;> rfl

theorem scalar?_toNat {low : Nat} {c : Char} (h : low ≤ c.toNat) :
    scalar? low c.toNat = some c := by
  have hv : c.toNat.isValidChar := c.valid
  simp [scalar?, h, hv]

theorem toNat_lt (c : Char) : c.toNat < 0x110000 := by
  rcases c.valid with h | h
  · exact lt_trans h (by decide)
  · exact h.2

theorem char?_encode (c : Char) (rest : List UInt8) :
    char? (String.utf8EncodeChar c ++ rest) = some (c, rest) := by
  have hmax := toNat_lt c
  have hval : c.val.toNat = c.toNat := rfl
  rw [String.utf8EncodeChar, hval]
  by_cases h1 : c.toNat ≤ 0x7F
  · have hb : (UInt8.ofNat c.toNat).toNat = c.toNat := toNat_ofNat_of_lt (by omega)
    have ha : UInt8.ofNat c.toNat < 0x80 :=
      UInt8.lt_iff_toNat_lt.mpr (show (UInt8.ofNat c.toNat).toNat < 0x80 by omega)
    rw [if_pos h1, List.singleton_append]
    simp only [char?, if_pos ha, hb, Char.ofNat_toNat]
  rw [if_neg h1]
  by_cases h2 : c.toNat ≤ 0x7FF
  · have hn : c.toNat / 64 % 0x20 * 64 + c.toNat % 0x40 = c.toNat := by omega
    rw [if_pos h2, List.cons_append, List.singleton_append,
      char?_two (toNat_ofNat_of_lt (by omega)) (by omega) (tail?_ofNat (by omega)), hn,
      scalar?_toNat (by omega), Option.map_some]
  rw [if_neg h2]
  by_cases h3 : c.toNat ≤ 0xFFFF
  · have hn : (c.toNat / 4096 % 0x10 * 64 + c.toNat / 64 % 0x40) * 64 + c.toNat % 0x40 =
        c.toNat := by omega
    rw [if_pos h3, List.cons_append, List.cons_append, List.singleton_append,
      char?_three (toNat_ofNat_of_lt (by omega)) (by omega) (tail?_ofNat (by omega))
        (tail?_ofNat (by omega)), hn, scalar?_toNat (by omega), Option.map_some]
  · have hn : ((c.toNat / 262144 % 0x08 * 64 + c.toNat / 4096 % 0x40) * 64 +
        c.toNat / 64 % 0x40) * 64 + c.toNat % 0x40 = c.toNat := by omega
    rw [if_neg h3, List.cons_append, List.cons_append, List.cons_append, List.singleton_append,
      char?_four (toNat_ofNat_of_lt (by omega)) (by omega) (tail?_ofNat (by omega))
        (tail?_ofNat (by omega)) (tail?_ofNat (by omega)), hn, scalar?_toNat (by omega),
      Option.map_some]

theorem length_pos (c : Char) : 0 < (String.utf8EncodeChar c).length := by
  rw [String.length_utf8EncodeChar]
  exact Char.utf8Size_pos c

theorem chars?_encode (cs : List Char) (fuel : Nat)
    (hf : (cs.flatMap String.utf8EncodeChar).length ≤ fuel) :
    chars? fuel (cs.flatMap String.utf8EncodeChar) = some cs := by
  induction cs generalizing fuel with
  | nil => cases fuel <;> rfl
  | cons c cs ih =>
    have hpos := length_pos c
    rw [List.flatMap_cons] at hf ⊢
    rw [List.length_append] at hf
    obtain ⟨fuel, rfl⟩ : ∃ n, fuel = n + 1 := ⟨fuel - 1, by omega⟩
    obtain ⟨e, es, he⟩ := List.exists_cons_of_length_pos hpos
    have hc := char?_encode c (cs.flatMap String.utf8EncodeChar)
    rw [he, List.cons_append] at hc ⊢
    simp [chars?, hc, ih fuel (by omega)]

/-- A text is what its bytes are read as. -/
theorem decode?_encode (s : String) : decode? (encode s) = some s := by
  rw [decode?, encode, chars?_encode _ _ (le_refl _), Option.map_some, String.ofList_toList]

theorem encode_append (s t : String) : encode (s ++ t) = encode s ++ encode t := by
  simp [encode]

theorem encode_ofList (cs : List Char) :
    encode (String.ofList cs) = cs.flatMap String.utf8EncodeChar := by
  simp [encode]

theorem encodeChar_of_ascii {c : Char} (h : c.toNat < 0x80) :
    String.utf8EncodeChar c = [UInt8.ofNat c.toNat] := by
  have hval : c.val.toNat = c.toNat := rfl
  rw [String.utf8EncodeChar, hval, if_pos (by omega)]

theorem le_of_mem_encodeChar {c : Char} (h : 0x80 ≤ c.toNat) (hb : b ∈ String.utf8EncodeChar c) :
    0x80 ≤ b.toNat := by
  have hval : c.val.toNat = c.toNat := rfl
  rw [String.utf8EncodeChar, hval, if_neg (by omega)] at hb
  split at hb
  · simp only [List.mem_cons, List.not_mem_nil, or_false] at hb
    rcases hb with rfl | rfl <;> rw [toNat_ofNat_of_lt (by omega)] <;> omega
  · split at hb
    · simp only [List.mem_cons, List.not_mem_nil, or_false] at hb
      rcases hb with rfl | rfl | rfl <;> rw [toNat_ofNat_of_lt (by omega)] <;> omega
    · simp only [List.mem_cons, List.not_mem_nil, or_false] at hb
      rcases hb with rfl | rfl | rfl | rfl <;> rw [toNat_ofNat_of_lt (by omega)] <;> omega

end HeadAudit.Utf8
