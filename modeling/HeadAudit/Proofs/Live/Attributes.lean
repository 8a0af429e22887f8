import Mathlib
import HeadAudit.Live.Node

namespace HeadAudit

structure TidyNames (attrs : List (String × String)) : Prop where
  nodup : (attrs.map (·.1)).Nodup
  lower : ∀ attr ∈ attrs, ∀ c ∈ attr.1.toList, c.isUpper = false

namespace Ascii

theorem lower_eq_self {s : String} (h : ∀ c ∈ s.toList, c.isUpper = false) : lower s = s := by
  have hc : ∀ c : Char, c.isUpper = false → c.toLower = c := fun c hu => by
    rw [Char.isUpper, decide_eq_false_iff_not] at hu
    rw [Char.toLower, dif_neg hu]
  rw [← String.toList_inj, toList_lower]
  rw [List.map_congr_left fun c hm => hc c (h c hm), List.map_id']

theorem lower_lower (s : String) : lower (lower s) = lower s := by
  rw [← String.toList_inj, toList_lower, toList_lower, List.map_map]
  exact List.map_congr_left fun c _ => c.toLower_toLower_eq_toLower

end Ascii

namespace Live.Attributes

theorem set_of_not_mem {name value : String} {attrs : Attributes}
    (ha : ∀ attr ∈ attrs, Ascii.lower attr.1 = attr.1)
    (hn : Ascii.lower name ∉ attrs.map (·.1)) :
    set name value attrs = attrs ++ [(Ascii.lower name, value)] := by
  induction attrs with
  | nil => rfl
  | cons attr attrs ih =>
    rw [List.map_cons, List.mem_cons, not_or] at hn
    have hs : ¬ Ascii.same attr.1 name := by
      rw [Ascii.same_iff, ha attr List.mem_cons_self]
      exact fun he => hn.1 he.symm
    rw [set, if_neg hs, ih (fun x hx => ha x (List.mem_cons_of_mem attr hx)) hn.2, List.cons_append]

theorem setAll_eq_append {attrs more : Attributes}
    (hl : ∀ attr ∈ attrs ++ more, Ascii.lower attr.1 = attr.1)
    (hn : ((attrs ++ more).map (·.1)).Nodup) : setAll attrs more = attrs ++ more := by
  induction more generalizing attrs with
  | nil => rw [setAll, List.foldl_nil, List.append_nil]
  | cons attr more ih =>
    have hattr : Ascii.lower attr.1 = attr.1 := hl attr (by simp)
    have hnot : attr.1 ∉ attrs.map (·.1) := by
      rw [List.map_append, List.map_cons, List.nodup_middle, List.nodup_cons] at hn
      exact fun hm => hn.1 (List.mem_append_left _ hm)
    have hset : set attr.1 attr.2 attrs = attrs ++ [attr] := by
      rw [set_of_not_mem (fun x hx => hl x (by simp [hx])) (by rwa [hattr]), hattr]
    rw [← List.singleton_append, ← List.append_assoc] at hl hn
    have hrest := ih hl hn
    rw [setAll, List.foldl_cons, hset, ← setAll, hrest, List.append_assoc, List.singleton_append]

theorem setAll_of_tidy {attrs : Attributes} (h : TidyNames attrs) : setAll [] attrs = attrs :=
  setAll_eq_append (fun attr hm => Ascii.lower_eq_self (h.lower attr hm)) h.nodup

end Live.Attributes

end HeadAudit
