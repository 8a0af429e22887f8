import Mathlib
import HeadAudit.Markup.View
import HeadAudit.Proofs.Selector.Tests

namespace HeadAudit.Rule

open List

variable {ν : Type} {a : Adapter ν} {x : ν}

/-- One rule at most, or one of two pairs, in the order of the table. -/
def Together (cs : List Category) : Prop :=
  cs.length ≤ 1 ∨ cs = [.importStyles, .syncStyles] ∨ cs = [.asyncScript, .deferScript]

instance : DecidablePred Together := fun _ => inferInstanceAs (Decidable (_ ∨ _ ∨ _))

def listed (c : Category) (applies : Bool) : List Category := if applies then [c] else []

theorem applicable_eq (a : Adapter ν) (x : ν) : applicable a x =
    (table a).flatMap fun rule => listed rule.1 (rule.2 x) := by
  rw [applicable]
  induction table a with
  | nil => rfl
  | cons rule rules ih =>
    rw [filter_cons, flatMap_cons, ← ih]
    cases rule.2 x <;> rfl

section Families

theorem together_scripts : ∀ isElement src async defer module json : Bool, Together
    (listed .asyncScript (isElement && (src && async)) ++
      (listed .syncScript
          (isElement && !(src && defer || src && async || (module && !async) || json)) ++
        listed .deferScript (isElement && (src && defer || (module && !async))))) := by
  decide +kernel

theorem together_styles : ∀ isElement imports : Bool, Together
    (listed .importStyles (isElement && imports) ++ listed .syncStyles isElement) := by
  decide

def relations : List String :=
  ["preconnect", "stylesheet", "preload", "modulepreload", "prefetch", "dns-prefetch", "prerender"]

theorem lower_of_mem_relations : ∀ value ∈ relations, Ascii.lower value = value := by
  decide +kernel

/-- A link has one relation, and each is asked for by one rule, or by both of those about styles. -/
theorem together_links (rel : Option String) (isElement imports : Bool) : Together
    (listed .preconnect (isElement && rel == some "preconnect") ++
      (listed .importStyles (isElement && rel == some "stylesheet" && imports) ++
        (listed .syncStyles (isElement && rel == some "stylesheet") ++
          (listed .preload (isElement && (rel == some "preload" || rel == some "modulepreload")) ++
            listed .prefetchPrerender (isElement && (rel == some "prefetch" ||
              (rel == some "dns-prefetch" || rel == some "prerender"))))))) := by
  by_cases h : rel ∈ [some "preconnect", some "stylesheet", some "preload", some "modulepreload",
    some "prefetch", some "dns-prefetch", some "prerender"]
  · revert isElement imports
    fin_cases h <;> decide +kernel
  · simp only [mem_cons, not_mem_nil, or_false, not_or] at h
    simp [listed, h, Together]

end Families

theorem tagged_eq {tag : String} (h : a.tagName x = tag) (tag' : String) :
    a.tagged tag' x = (a.isElement x && tag == tag') := by
  rw [Adapter.tagged, h]

theorem tagged_of_ne {tag : String} (h : a.tagName x ≠ tag) : a.tagged tag x = false := by
  rw [Adapter.tagged, beq_eq_false_iff_ne.mpr h, Bool.and_false]

theorem isPragma_of_ne (hb : a.tagName x ≠ "base") (hm : a.tagName x ≠ "meta") :
    isPragma a x = false := by
  rw [isPragma, if_neg (by rwa [beq_iff_eq]), if_neg (by rwa [beq_iff_eq])]

/-- At most two rules apply, and only certain ones together. -/
theorem together_applicable (a : Adapter ν) (x : ν) : Together (applicable a x) := by
  have hnone : ∀ c, listed c false = [] := fun _ => rfl
  have hone : ∀ c applies, Together (listed c applies) := fun _ applies => by
    cases applies
    · exact .inl (Nat.zero_le 1)
    · exact .inl le_rfl
  simp only [applicable_eq, table, flatMap_cons, flatMap_nil, append_nil, isTitle_eq,
    isPreconnect_eq, isAsyncScript_eq, isImportStyles_eq, isSyncStyles_eq, isPreload_eq,
    isPrefetchPrerender_eq, isSyncScript, isDeferScript, isDeferredModule, selects_script, any_cons,
    any_nil, Bool.or_false]
  -- Each rule asks for one tag, so the tag decides which of them are left.
  by_cases hpragma : a.tagName x = "base" ∨ a.tagName x = "meta"
  · rcases hpragma with h | h <;>
    · simp only [tagged_eq h, String.reduceBEq, Bool.and_false, Bool.false_and, Bool.or_false,
        hnone, append_nil]
      exact hone _ _
  rw [not_or] at hpragma
  rw [isPragma_of_ne hpragma.1 hpragma.2, hnone, nil_append]
  by_cases hscript : a.tagName x = "script"
  · simp only [tagged_eq hscript, String.reduceBEq, Bool.and_false, Bool.false_and, Bool.or_false,
      hnone, append_nil, nil_append, Bool.and_true]
    exact together_scripts _ _ _ _ _ _
  by_cases hstyle : a.tagName x = "style"
  · simp only [tagged_eq hstyle, String.reduceBEq, Bool.and_false, Bool.false_and, Bool.false_or,
      hnone, append_nil, nil_append, Bool.and_true]
    exact together_styles _ _
  by_cases hlink : a.tagName x = "link"
  · have hrel : ∀ value ∈ relations, a.reads "rel" value x =
        ((a.attr x "rel").map Ascii.lower == some value) :=
      fun value hv => Adapter.reads_eq (lower_of_mem_relations value hv)
    simp only [relations, forall_mem_cons] at hrel
    simp only [tagged_eq hlink, String.reduceBEq, Bool.and_false, Bool.false_and, Bool.or_false,
      hnone, nil_append, Bool.and_true, hrel]
    exact together_links _ _ _
  · simp only [tagged_of_ne hscript, tagged_of_ne hstyle, tagged_of_ne hlink, Bool.false_and,
      Bool.or_false, hnone, append_nil]
    exact hone _ _

/-- The rules in another order, with the two about styles and the first and last about scripts in
their old one. -/
structure Reordered (a : Adapter ν) (rules : List (Category × (ν → Bool))) : Prop where
  perm : rules.Perm (table a)
  styles : [.importStyles, .syncStyles] <+ rules.map (·.1)
  scripts : [.asyncScript, .deferScript] <+ rules.map (·.1)

theorem firstMatch_eq_head (rules : List (Category × (ν → Bool))) (x : ν) :
    firstMatch rules x = (((rules.filter (·.2 x)).map (·.1)).head?).getD .other := by
  rw [firstMatch, head?_map, head?_filter]

section Order

variable {all cs : List Category} {c d : Category}

theorem not_sublist_swap (hn : all.Nodup) (h : [c, d] <+ all) : ¬ [d, c] <+ all := by
  induction all with
  | nil => cases h
  | cons e all ih =>
    rw [nodup_cons] at hn
    intro h'
    rw [sublist_cons_iff] at h h'
    rcases h with h | ⟨_, he, h⟩
    · rcases h' with h' | ⟨_, he', -⟩
      · exact ih hn.2 h h'
      · rw [← (cons.inj he').1] at hn
        exact hn.1 (h.subset (mem_cons_of_mem c mem_cons_self))
    · obtain ⟨rfl, rfl⟩ := cons.inj he
      rcases h' with h' | ⟨_, he', -⟩
      · exact hn.1 (h'.subset (mem_cons_of_mem d mem_cons_self))
      · rw [← (cons.inj he').1] at hn
        exact hn.1 (singleton_sublist.mp h)

theorem eq_of_perm_pair (hn : all.Nodup) (hs : cs <+ all) (h : [c, d] <+ all)
    (hp : cs.Perm [c, d]) : cs = [c, d] := by
  rcases perm_pair.mp hp with rfl | rfl
  · rfl
  · exact absurd hs (not_sublist_swap hn h)

/-- Rules that apply together are told in the same order by every table that keeps that of the
pairs. -/
theorem Together.eq_of_perm (hn : all.Nodup) (hs : cs <+ all)
    (hstyles : [.importStyles, .syncStyles] <+ all) (hscripts : [.asyncScript, .deferScript] <+ all)
    {ds : List Category} (h : Together ds) (hp : cs.Perm ds) : cs = ds := by
  rcases h with h | rfl | rfl
  · cases ds with
    | nil => exact hp.eq_nil
    | cons d ds =>
      obtain rfl : ds = [] := length_eq_zero_iff.mp (by simpa using h)
      exact perm_singleton.mp hp
  · exact eq_of_perm_pair hn hs hstyles hp
  · exact eq_of_perm_pair hn hs hscripts hp

end Order

theorem Reordered.applicable_eq {rules : List (Category × (ν → Bool))} (h : Reordered a rules)
    (x : ν) : (rules.filter (·.2 x)).map (·.1) = applicable a x := by
  have hn : (rules.map (·.1)).Nodup := by
    rw [(h.perm.map _).nodup_iff]
    change Category.all.dropLast.Nodup
    decide
  exact (together_applicable a x).eq_of_perm hn (filter_sublist.map _) h.styles h.scripts
    ((h.perm.filter _).map _)

/-- At most two rules apply to a node, and any order of the rules that keeps that of the two pairs
which may apply together sorts all nodes alike. -/
theorem overlaps (a : Adapter ν) (x : ν) : Together (applicable a x) ∧
    classify a x = (applicable a x).head?.getD .other ∧
    ∀ rules, Reordered a rules → firstMatch rules x = classify a x := by
  refine ⟨together_applicable a x, firstMatch_eq_head (table a) x, fun rules h => ?_⟩
  rw [classify, firstMatch_eq_head, firstMatch_eq_head, h.applicable_eq]
  rfl

def doubleScript : Markup.Document :=
  ⟨[.element "script" [("src", "a.js"), ("async", ""), ("defer", "")] [] []]⟩

/-- The heaviest three rules may as well be tried last. -/
theorem overlaps_doubleScript :
    Reordered (doubleScript.adapter none)
        ((table (doubleScript.adapter none)).drop 3 ++ (table (doubleScript.adapter none)).take 3) ∧
      applicable (doubleScript.adapter none) [.child 0] = [.asyncScript, .deferScript] ∧
      firstMatch
          ((table (doubleScript.adapter none)).drop 3 ++ (table (doubleScript.adapter none)).take 3)
          [.child 0] =
        classify (doubleScript.adapter none) [.child 0] := by
  have hr : Reordered (doubleScript.adapter none)
      ((table (doubleScript.adapter none)).drop 3 ++
        (table (doubleScript.adapter none)).take 3) := by
    constructor
    case perm => exact perm_append_comm.trans (.of_eq (take_append_drop 3 _))
    case styles =>
      change _ <+ Category.all.dropLast.drop 3 ++ Category.all.dropLast.take 3
      decide
    case scripts =>
      change _ <+ Category.all.dropLast.drop 3 ++ Category.all.dropLast.take 3
      decide
  exact ⟨hr, by decide +kernel, (overlaps (doubleScript.adapter none) [.child 0]).2.2 _ hr⟩

end HeadAudit.Rule
