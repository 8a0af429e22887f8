import Mathlib
import HeadAudit.Proofs.Text.Codes
import HeadAudit.Text.Numeral

namespace HeadAudit.Numeral

open List

variable {x y : List Char} {m n width : Nat}

def Breaks (x : List Char) : Prop := ∀ c ∈ x.head?, c.isDigit = false

theorem toList_toString (n : Nat) : (toString n).toList = Nat.toDigits 10 n := by
  rw [Nat.toString_eq_ofList_toDigits, String.toList_ofList]

theorem isDigit_of_mem_toString {c : Char} (h : c ∈ (toString n).toList) : c.isDigit = true := by
  rw [toList_toString] at h
  exact Nat.isDigit_of_mem_toDigits (by decide) (by decide) h

theorem toString_append_inj (hx : Breaks x) (hy : Breaks y)
    (h : (toString m).toList ++ x = (toString n).toList ++ y) : m = n ∧ x = y := by
  obtain ⟨hdigits, hrest⟩ := append_inj_of_all (p := Char.isDigit)
    (fun _ => isDigit_of_mem_toString) (fun _ => isDigit_of_mem_toString) hx hy h
  exact ⟨Nat.repr_injective (String.toList_injective hdigits), hrest⟩

theorem exists_toString (n : Nat) : ∃ c cs, (toString n).toList = c :: cs ∧ c.isDigit = true := by
  obtain ⟨c, cs, hc⟩ := exists_cons_of_ne_nil (toList_toString n ▸ Nat.toDigits_ne_nil)
  exact ⟨c, cs, hc, isDigit_of_mem_toString (hc ▸ mem_cons_self)⟩

theorem ne_minus_append_toString (h : '-' :: x = (toString n).toList ++ y) : False := by
  obtain ⟨c, cs, hc, hdigit⟩ := exists_toString n
  rw [hc, cons_append] at h
  rw [← (cons.inj h).1] at hdigit
  exact absurd hdigit (by decide)

theorem toList_ofInt (i : Int) : (ofInt i).toList =
    if i < 0 then '-' :: (toString i.natAbs).toList else (toString i.natAbs).toList := by
  rw [ofInt]
  split
  · rw [String.toList_append]
    rfl
  · rfl

theorem ofInt_append_inj {i j : Int} (hx : Breaks x) (hy : Breaks y)
    (h : (ofInt i).toList ++ x = (ofInt j).toList ++ y) : i = j ∧ x = y := by
  rw [toList_ofInt, toList_ofInt] at h
  split at h <;> split at h
  · obtain ⟨habs, rfl⟩ := toString_append_inj hx hy (cons.inj h).2
    exact ⟨by omega, rfl⟩
  · exact (ne_minus_append_toString h).elim
  · exact (ne_minus_append_toString h.symm).elim
  · obtain ⟨habs, rfl⟩ := toString_append_inj hx hy h
    exact ⟨by omega, rfl⟩

section Padded

theorem toList_padded (width n : Nat) : (padded width n).toList =
    replicate (width - (toString n).toList.length) '0' ++ (toString n).toList :=
  String.toList_ofList

theorem ofDigitChars_padded (width n : Nat) :
    Nat.ofDigitChars 10 (padded width n).toList 0 = n := by
  have hzeros (k : Nat) (cs : List Char) :
      Nat.ofDigitChars 10 (replicate k '0' ++ cs) 0 = Nat.ofDigitChars 10 cs 0 := by
    induction k with
    | zero => rfl
    | succ k ih =>
      rw [replicate_succ, cons_append, Nat.ofDigitChars_cons]
      exact ih
  rw [toList_padded, hzeros, toList_toString,
    Nat.ofDigitChars_toDigits (by decide) (by decide)]

theorem padded_injective (width : Nat) : Function.Injective (padded width) := by
  intro m n h
  rw [← ofDigitChars_padded width m, h, ofDigitChars_padded]

theorem isDigit_of_mem_padded {c : Char} (h : c ∈ (padded width n).toList) : c.isDigit = true := by
  rw [toList_padded, mem_append] at h
  rcases h with h | h
  · rw [eq_of_mem_replicate h]
    rfl
  · exact isDigit_of_mem_toString h

theorem length_padded_two : ∀ n < 100, (padded 2 n).toList.length = 2 := by
  decide +kernel

theorem padded_two_append_inj (hm : m < 100) (hn : n < 100)
    (h : (padded 2 m).toList ++ x = (padded 2 n).toList ++ y) : m = n ∧ x = y := by
  have hlen : (padded 2 m).toList.length = (padded 2 n).toList.length := by
    rw [length_padded_two m hm, length_padded_two n hn]
  obtain ⟨hdigits, hrest⟩ := append_inj h hlen
  exact ⟨padded_injective 2 (String.toList_injective hdigits), hrest⟩

end Padded

end HeadAudit.Numeral
