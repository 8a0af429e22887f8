import Mathlib
import HeadAudit.Markup.View
import HeadAudit.Proofs.Ordering.Descents
import HeadAudit.Report

namespace HeadAudit

open List

variable {ν : Type}

section Warnings

def About (xs : List ν) (ws : List (Warning ν)) : Prop := ∀ w ∈ ws, ∀ x ∈ w.elements, x ∈ xs

variable {xs ys : List ν} {x : ν} {ws ws' : List (Warning ν)} {a : Adapter ν}

theorem about_nil : About xs ([] : List (Warning ν)) := fun _ h => absurd h not_mem_nil

theorem about_singleton (message : String) : About xs [⟨message, xs⟩] := by
  intro w hw x hx
  rwa [mem_singleton.mp hw] at hx

theorem about_ite (p : Prop) [Decidable p] (h : About xs ws) (h' : About xs ws') :
    About xs (if p then ws else ws') := by
  split
  · exact h
  · exact h'

theorem About.append (h : About xs ws) (h' : About xs ws') : About xs (ws ++ ws') := by
  intro w hw
  rcases mem_append.mp hw with hw | hw
  · exact h w hw
  · exact h' w hw

theorem About.mono (h : About ys ws) (hs : ys ⊆ xs) : About xs ws :=
  fun w hw x hx => hs (h w hw x hx)

theorem about_flatMap {f : ν → List (Warning ν)} (hs : ys ⊆ xs) (h : ∀ y, About [y] (f y)) :
    About xs (ys.flatMap f) := by
  intro w hw x hx
  obtain ⟨y, hy, hw⟩ := mem_flatMap.mp hw
  rw [mem_singleton.mp (h y w hw x hx)]
  exact hs hy

/-- What stands deep inside of a child is put down to the child. -/
theorem about_placementWarnings (a : Adapter ν) (x : ν) :
    About [x] (Check.Head.placementWarnings a x) := by
  rw [Check.Head.placementWarnings]
  apply About.append
  · exact about_ite _ about_nil (about_singleton _)
  · intro w hw
    obtain ⟨tag, -, rfl⟩ := mem_map.mp hw
    exact about_singleton _ _ (mem_singleton_self _)

theorem about_trialWarnings (a : Adapter ν) (ctx : Context) (x : ν) :
    About [x] (Check.Head.trialWarnings a ctx x) := by
  rw [Check.Head.trialWarnings]
  split
  · exact about_nil
  · exact about_singleton _

theorem about_headCheck (a : Adapter ν) (ctx : Context) (head : ν) :
    About (a.children head) (Check.Head.check a ctx head) := by
  rw [Check.Head.check]
  refine .append (.append (.append (.append (.append ?_ ?_) ?_) ?_) ?_) ?_
  · exact (about_ite _ about_nil (about_singleton _)).mono (filter_subset_self _)
  · exact (about_ite _ about_nil (about_singleton _)).mono (filter_subset_self _)
  · exact (about_ite _ (about_singleton _) about_nil).mono (filter_subset_self _)
  · exact (about_ite _ about_nil (about_singleton _)).mono (filter_subset_self _)
  · exact about_flatMap (Subset.refl _) (about_placementWarnings a)
  · exact about_flatMap (filter_subset_self _) (about_trialWarnings a ctx)

end Warnings

theorem map_element_weigh (a : Adapter ν) (head : ν) :
    (weigh a head).map (·.element) = a.children head := by
  rw [weigh, map_map]
  exact map_id _

variable [DecidableEq ν]

/-- An analysis of different children, in which nothing else is named. -/
structure Analysis.Closed (r : Analysis ν) : Prop where
  nodup : (r.weights.map (·.element)).Nodup
  warnings : About (r.weights.map (·.element)) r.warnings
  examined : (r.examined.map (·.element)).Sublist (r.weights.map (·.element))

theorem examined_sublist (a : Adapter ν) (ctx : Context) (ws : List (Weighted ν)) :
    ((ws.filterMap fun w => Analysis.examine? a ctx w.element).map (·.element)).Sublist
      (ws.map (·.element)) := by
  induction ws with
  | nil => exact .slnil
  | cons w ws ih =>
    rw [filterMap_cons, map_cons, Analysis.examine?]
    split
    · next he => exact ih.cons _
    · next e he =>
      split at he
      · cases he
      · cases he
        exact ih.cons_cons _

theorem Analysis.closed_run {a : Adapter ν} {head : ν} (h : (a.children head).Nodup)
    (ctx : Context) (options : Options) : (Analysis.run a ctx options head).Closed where
  nodup := by rwa [Analysis.run, map_element_weigh]
  warnings := by
    rw [Analysis.run, map_element_weigh]
    dsimp only
    split
    · exact about_headCheck a ctx head
    · exact about_nil
  examined := by
    rw [Analysis.run]
    dsimp only
    split
    · exact examined_sublist a ctx _
    · exact nil_sublist _

namespace Report

theorem index_snapshot {a : Adapter ν} {xs : List ν} (h : xs.Nodup) {x : ν} {i : Nat} :
    (snapshot a xs x).index = some i ↔ xs[i]? = some x := by
  rw [snapshot, findIdx?_eq_some_iff_getElem, List.getElem?_eq_some_iff]
  simp only [decide_eq_true_eq]
  constructor
  · rintro ⟨hi, hx, -⟩
    exact ⟨hi, hx⟩
  · rintro ⟨hi, hx⟩
    refine ⟨hi, hx, fun j hj he => ?_⟩
    rw [← hx, h.getElem_inj_iff] at he
    omega

theorem exists_index {a : Adapter ν} {xs : List ν} (h : xs.Nodup) {x : ν} (hx : x ∈ xs) :
    ∃ i < xs.length, (snapshot a xs x).index = some i := by
  obtain ⟨i, hi, he⟩ := getElem_of_mem hx
  exact ⟨i, hi, (index_snapshot h).mpr (List.getElem?_eq_some_iff.mpr ⟨hi, he⟩)⟩

def Precedes (s s' : Snapshot) : Prop := ∃ i j, s.index = some i ∧ s'.index = some j ∧ i < j

theorem pairwise_precedes (a : Adapter ν) {xs ys : List ν} (h : xs.Nodup) (hs : ys.Sublist xs) :
    (ys.map (snapshot a xs)).Pairwise Precedes := by
  rw [pairwise_map]
  refine Pairwise.sublist hs (pairwise_iff_getElem.mpr fun i j hi hj hij => ?_)
  exact ⟨i, j, (index_snapshot h).mpr (getElem?_eq_getElem hi),
    (index_snapshot h).mpr (getElem?_eq_getElem hj), hij⟩

def Names (r : Report) (i : Nat) : Prop :=
  (∃ w ∈ r.warnings, ∃ s ∈ w.elements, s.index = some i) ∨
    ∃ f ∈ r.findings, f.element.index = some i ∧ f.warnings ≠ []

structure Between (r : Report) (v : ViolationEntry) (first second : WeightEntry) : Prop where
  at_previous : r.weights[v.index - 1]? = some first
  at_index : r.weights[v.index]? = some second
  element : v.element.index = some v.index
  previous : v.previous.index = some (v.index - 1)
  weight : v.weight = second.weight
  category : v.category = second.category
  previousWeight : v.previousWeight = first.weight
  previousCategory : v.previousCategory = first.category

/-- All parts of a report refer to the same children. -/
structure Coherent (r : Report) : Prop where
  weights : ∀ (i : Nat) (w : WeightEntry), r.weights[i]? = some w → w.element.index = some i
  warnings : ∀ w ∈ r.warnings, ∀ s ∈ w.elements, ∃ i < r.weights.length, s.index = some i
  findings : ∀ f ∈ r.findings, ∃ i < r.weights.length, f.element.index = some i
  findings_sorted : (r.findings.map (·.element)).Pairwise Precedes
  violations : ∀ v ∈ r.violations, 0 < v.index ∧ ∃ first second, r.Between v first second
  valid_iff : ∀ (i : Nat) (w : WeightEntry), r.weights[i]? = some w →
    (w.valid = false ↔ r.Names i)
  valid_of_isClean : r.isClean → ∀ w ∈ r.weights, w.valid

theorem not_names_of_isClean {r : Report} (h : r.isClean) (i : Nat) : ¬ r.Names i := by
  rw [isClean, Bool.and_eq_true, Bool.and_eq_true, all_eq_true] at h
  obtain ⟨⟨hw, -⟩, hf⟩ := h
  rintro (⟨w, hm, -⟩ | ⟨f, hm, -, hne⟩)
  · rw [isEmpty_iff.mp hw] at hm
    exact not_mem_nil hm
  · exact hne (isEmpty_iff.mp (hf f hm))

variable {a : Adapter ν} {r : Analysis ν}

theorem getElem?_weights_ofAnalysis {i : Nat} {w : WeightEntry}
    (h : (ofAnalysis a r).weights[i]? = some w) :
    ∃ e, r.weights[i]? = some e ∧ w.valid = !r.isFlagged e.element ∧
      w.element = snapshot a (r.weights.map (·.element)) e.element := by
  rw [ofAnalysis, getElem?_map, Option.map_eq_some_iff] at h
  obtain ⟨e, he, rfl⟩ := h
  exact ⟨e, he, rfl, rfl⟩

theorem length_weights_ofAnalysis :
    (ofAnalysis a r).weights.length = (r.weights.map (·.element)).length := by
  rw [ofAnalysis, length_map, length_map]

theorem names_ofAnalysis_iff (h : r.Closed) {i : Nat} {x : ν}
    (hx : (r.weights.map (·.element))[i]? = some x) :
    (ofAnalysis a r).Names i ↔ r.isFlagged x := by
  have hi : ∀ y, (snapshot a (r.weights.map (·.element)) y).index = some i ↔ y = x := fun y => by
    rw [index_snapshot h.nodup, hx, Option.some.injEq, eq_comm]
  rw [Analysis.isFlagged, Bool.or_eq_true, any_eq_true, any_eq_true, Names, ofAnalysis]
  simp only [mem_map, exists_exists_and_eq_and, hi, exists_eq_right, decide_eq_true_eq,
    Bool.and_eq_true, Bool.not_eq_true', ne_eq, isEmpty_eq_false_iff]

theorem between_ofAnalysis (h : r.Closed) {v : ViolationEntry}
    (hv : v ∈ (ofAnalysis a r).violations) :
    0 < v.index ∧ ∃ first second, (ofAnalysis a r).Between v first second := by
  have hat : ∀ {i : Nat} {e : Weighted ν}, r.weights[i]? = some e →
      (snapshot a (r.weights.map (·.element)) e.element).index = some i := fun he => by
    rw [index_snapshot h.nodup, getElem?_map, he, Option.map_some]
  have hentry : ∀ {i : Nat} {e : Weighted ν}, r.weights[i]? = some e →
      ∃ w : WeightEntry, (ofAnalysis a r).weights[i]? = some w ∧ w.weight = e.weight ∧
        w.category = e.category := fun he => by
    rw [ofAnalysis, getElem?_map, he]
    exact ⟨_, rfl, rfl, rfl⟩
  obtain ⟨v, hm, rfl⟩ := mem_map.mp hv
  obtain ⟨k, first, second, hfirst, hsecond, -, rfl⟩ := Ordering.mem_violationsFrom.mp hm
  rw [Nat.zero_add]
  obtain ⟨w, hw, hweight, hcategory⟩ := hentry hfirst
  obtain ⟨w', hw', hweight', hcategory'⟩ := hentry hsecond
  exact ⟨Nat.succ_pos k, w, w', hw, hw', hat hsecond, hat hfirst, hweight'.symm, hcategory'.symm,
    hweight.symm, hcategory.symm⟩

theorem coherent_ofAnalysis (a : Adapter ν) (h : r.Closed) : (ofAnalysis a r).Coherent := by
  have hvalid : ∀ (i : Nat) (w : WeightEntry), (ofAnalysis a r).weights[i]? = some w →
      (w.valid = false ↔ (ofAnalysis a r).Names i) := by
    intro i w hw
    obtain ⟨e, he, hv, -⟩ := getElem?_weights_ofAnalysis hw
    rw [names_ofAnalysis_iff h (x := e.element) (by rw [getElem?_map, he, Option.map_some]), hv,
      Bool.not_eq_false']
  constructor
  case weights =>
    intro i w hw
    obtain ⟨e, he, -, hs⟩ := getElem?_weights_ofAnalysis hw
    rw [hs, index_snapshot h.nodup, getElem?_map, he, Option.map_some]
  case warnings =>
    intro w hw s hs
    obtain ⟨w, hm, rfl⟩ := mem_map.mp hw
    obtain ⟨x, hx, rfl⟩ := mem_map.mp hs
    rw [length_weights_ofAnalysis]
    exact exists_index h.nodup (h.warnings w hm x hx)
  case findings =>
    intro f hf
    obtain ⟨e, he, rfl⟩ := mem_map.mp hf
    rw [length_weights_ofAnalysis]
    exact exists_index h.nodup (h.examined.subset (mem_map_of_mem he))
  case findings_sorted =>
    have hp := pairwise_precedes a h.nodup h.examined
    rw [map_map] at hp
    rw [ofAnalysis, map_map]
    exact hp
  case violations => exact fun v hv => between_ofAnalysis h hv
  case valid_iff => exact hvalid
  case valid_of_isClean =>
    intro hc w hw
    obtain ⟨i, hi, rfl⟩ := getElem_of_mem hw
    rw [← Bool.not_eq_false, hvalid i _ (List.getElem?_eq_getElem hi)]
    exact not_names_of_isClean hc i

/-- The report on a head without repeated children is coherent, whatever else the adapter tells. -/
theorem coherent_run {a : Adapter ν} {head : ν} (h : (a.children head).Nodup) (ctx : Context)
    (options : Options) : (run a ctx options head).Coherent :=
  coherent_ofAnalysis a (Analysis.closed_run h ctx options)

def lateEncoding : Markup.Document :=
  ⟨[.element "html" []
    [.element "head" []
      [.element "title" [] [.text "A"] [], .text " ", .element "meta" [("charset", "utf-8")] [] [],
        .element "title" [] [.text "B"] []] []] []]⟩

theorem coherent_run_lateEncoding :
    ((lateEncoding.adapter none).children [.child 0, .child 0]).Nodup ∧
      (run (lateEncoding.adapter none) { now := 0 } {} [.child 0, .child 0]).Coherent ∧
      (run (lateEncoding.adapter none) { now := 0 } {} [.child 0, .child 0]).violations.length =
        1 := by
  have h : ((lateEncoding.adapter none).children [.child 0, .child 0]).Nodup := by decide
  exact ⟨h, coherent_run h _ _, by decide +kernel⟩

end Report

end HeadAudit
