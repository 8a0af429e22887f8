import HeadAudit.Proofs.Parity.Checks

namespace HeadAudit

open List

variable {ν μ : Type} {a : Adapter ν} {b : Adapter μ} {R : ν → μ → Prop} {rank : ν → Nat}
  {head : ν} {head' : μ} {x : ν} {y : μ}

section Warnings

structure SameWarning (a : Adapter ν) (b : Adapter μ) (R : ν → μ → Prop) (head : ν) (head' : μ)
    (w : Warning ν) (w' : Warning μ) : Prop where
  message : w.message = w'.message
  elements : Forall₂ (Counterparts a b R head head') w.elements w'.elements

variable {xs : List ν} {ys : List μ}

theorem rel_titleWarnings (h : Forall₂ (Counterparts a b R head head') xs ys) :
    Forall₂ (SameWarning a b R head head') (Check.Head.titleWarnings xs)
      (Check.Head.titleWarnings ys) := by
  rw [Check.Head.titleWarnings, Check.Head.titleWarnings, h.length_eq]
  split
  · exact .nil
  · exact .cons ⟨rfl, h⟩ .nil

theorem rel_viewportWarnings (h : Forall₂ (Counterparts a b R head head') xs ys) :
    Forall₂ (SameWarning a b R head head') (Check.Head.viewportWarnings xs)
      (Check.Head.viewportWarnings ys) := by
  rw [Check.Head.viewportWarnings, Check.Head.viewportWarnings, h.length_eq]
  split
  · exact .nil
  · exact .cons ⟨rfl, h⟩ .nil

theorem rel_baseWarnings (h : Forall₂ (Counterparts a b R head head') xs ys) :
    Forall₂ (SameWarning a b R head head') (Check.Head.baseWarnings xs)
      (Check.Head.baseWarnings ys) := by
  rw [Check.Head.baseWarnings, Check.Head.baseWarnings, h.length_eq]
  split
  · exact .cons ⟨rfl, h⟩ .nil
  · exact .nil

theorem rel_policyWarnings (h : Forall₂ (Counterparts a b R head head') xs ys) :
    Forall₂ (SameWarning a b R head head') (Check.Head.policyWarnings xs)
      (Check.Head.policyWarnings ys) := by
  cases h with
  | nil => exact .nil
  | cons hxy h => exact .cons ⟨rfl, .cons hxy h⟩ .nil

theorem Similar.isLegal (h : Similar a b R rank) (hxy : R x y) :
    Check.Head.isLegal a x = Check.Head.isLegal b y := by
  rw [Check.Head.isLegal, Check.Head.isLegal, h.tagName hxy]

/-- With fuel beyond the rank of a node as many nodes are counted below it. -/
theorem Similar.sizeBelow (h : Similar a b R rank) (hxy : R x y) {fuel fuel' : Nat}
    (hf : rank x < fuel) (hf' : rank x < fuel') :
    Check.Head.sizeBelow a fuel x = Check.Head.sizeBelow b fuel' y := by
  induction fuel generalizing x y fuel' with
  | zero => exact absurd hf (Nat.not_lt_zero _)
  | succ fuel ih =>
    obtain ⟨fuel', rfl⟩ : ∃ k, fuel' = k + 1 := ⟨fuel' - 1, by omega⟩
    rw [Check.Head.sizeBelow, Check.Head.sizeBelow]
    congr 1
    apply map_eq_of_rel (forall₂_and_mem (h.children hxy))
    intro _ _ hcd
    have hr := h.rank_lt hxy hcd.2.1
    rw [ih hcd.1 (Nat.lt_of_lt_of_le hr (Nat.le_of_lt_succ hf))
      (Nat.lt_of_lt_of_le hr (Nat.le_of_lt_succ hf'))]

theorem rel_push {stack nodes : List ν} {stack' nodes' : List μ} (hs : Forall₂ R stack stack')
    (hn : Forall₂ R nodes nodes') :
    Forall₂ R (Check.Head.push stack nodes) (Check.Head.push stack' nodes') :=
  rel_foldl (fun _ _ hs _ _ hxy => .cons hxy hs) hs hn

/-- A walk finds the same from stacks of nodes that look the same. -/
theorem Similar.illegalOn (h : Similar a b R rank) (fuel : Nat) {stack : List ν} {stack' : List μ}
    (hs : Forall₂ R stack stack') :
    Check.Head.illegalOn a fuel stack = Check.Head.illegalOn b fuel stack' := by
  induction fuel generalizing stack stack' with
  | zero => rfl
  | succ fuel ih =>
    cases hs with
    | nil => rfl
    | cons hxy hs =>
      rw [Check.Head.illegalOn, Check.Head.illegalOn, h.tagName hxy, h.isLegal hxy, ih hs,
        ih (rel_push hs (rel_reverse (h.children hxy)))]

/-- With fuel beyond the rank of a node the same tags are found below it. -/
theorem Similar.illegalBelow (h : Similar a b R rank) (hxy : R x y) {fuel fuel' : Nat}
    (hf : rank x < fuel) (hf' : rank x < fuel') :
    Check.Head.illegalBelow a fuel x = Check.Head.illegalBelow b fuel' y := by
  rw [Check.Head.illegalBelow, Check.Head.illegalBelow, h.tagName hxy, h.sizeBelow hxy hf hf',
    h.illegalOn _ (rel_push .nil (rel_reverse (h.children hxy)))]

theorem SameHead.placementWarnings (h : SameHead a b R rank head head')
    (hxy : Counterparts a b R head head' x y) :
    Forall₂ (SameWarning a b R head head') (Check.Head.placementWarnings a x)
      (Check.Head.placementWarnings b y) := by
  have hlt := h.rank_lt h.related hxy.mem
  have hf := h.rank_lt_height
  have hf' := h.rank_lt_height'
  have hill : ∀ tag, SameWarning a b R head head' (Check.Head.illegal x tag)
      (Check.Head.illegal y tag) := fun tag => ⟨rfl, .cons hxy .nil⟩
  have hbelow : Check.Head.illegalBelow a (a.height + 1) x =
      Check.Head.illegalBelow b (b.height + 1) y :=
    h.illegalBelow hxy.related (by omega) (by omega)
  rw [Check.Head.placementWarnings, Check.Head.placementWarnings, h.isLegal hxy.related,
    h.tagName hxy.related, hbelow]
  apply rel_append
  · split
    · exact .nil
    · exact .cons (hill _) .nil
  · rw [forall₂_map_left_iff, forall₂_map_right_iff, forall₂_same]
    exact fun tag _ => hill tag

theorem Similar.trialWarnings (h : Similar a b R rank) (hxy : Counterparts a b R head head' x y)
    (ctx : Context) : Forall₂ (SameWarning a b R head head') (Check.Head.trialWarnings a ctx x)
      (Check.Head.trialWarnings b ctx y) := by
  rw [Check.Head.trialWarnings, Check.Head.trialWarnings, Check.TrialToken.token,
    Check.TrialToken.token, h.attr hxy.related]
  split
  · exact .nil
  · exact .cons ⟨rfl, .cons hxy .nil⟩ .nil

theorem SameHead.headCheck (h : SameHead a b R rank head head') (ctx : Context) :
    Forall₂ (SameWarning a b R head head') (Check.Head.check a ctx head)
      (Check.Head.check b ctx head') := by
  have hc := h.counterparts
  rw [Check.Head.check, Check.Head.check]
  refine rel_append (rel_append (rel_append (rel_append (rel_append ?_ ?_) ?_) ?_) ?_) ?_
  · exact rel_titleWarnings (rel_filter_of_eq hc fun hxy => h.selects hxy.related _)
  · exact rel_viewportWarnings (rel_filter_of_eq hc fun hxy => h.selects hxy.related _)
  · exact rel_baseWarnings (rel_filter_of_eq hc fun hxy => h.selects hxy.related _)
  · exact rel_policyWarnings (rel_filter_of_eq hc fun hxy => h.selectsAny hxy.related _)
  · exact rel_flatMap hc fun _ _ hxy => h.placementWarnings hxy
  · exact rel_flatMap (rel_filter_of_eq hc fun hxy => h.selects hxy.related _)
      fun _ _ hxy => h.trialWarnings hxy ctx

end Warnings

section Entries

structure SameWeighted (a : Adapter ν) (b : Adapter μ) (R : ν → μ → Prop) (head : ν) (head' : μ)
    (w : Weighted ν) (w' : Weighted μ) : Prop where
  element : Counterparts a b R head head' w.element w'.element
  category : w.category = w'.category
  weight : w.weight = w'.weight

structure SameViolation (a : Adapter ν) (b : Adapter μ) (R : ν → μ → Prop) (head : ν) (head' : μ)
    (v : Violation ν) (v' : Violation μ) : Prop where
  index : v.index = v'.index
  element : Counterparts a b R head head' v.element v'.element
  weight : v.weight = v'.weight
  category : v.category = v'.category
  previous : Counterparts a b R head head' v.previous v'.previous
  previousWeight : v.previousWeight = v'.previousWeight
  previousCategory : v.previousCategory = v'.previousCategory

structure SameExamined (a : Adapter ν) (b : Adapter μ) (R : ν → μ → Prop) (head : ν) (head' : μ)
    (e : Examined ν) (e' : Examined μ) : Prop where
  element : Counterparts a b R head head' e.element e'.element
  finding : e.finding = e'.finding

theorem SameHead.weigh (h : SameHead a b R rank head head') :
    Forall₂ (SameWeighted a b R head head') (weigh a head) (weigh b head') := by
  rw [HeadAudit.weigh, HeadAudit.weigh, forall₂_map_left_iff, forall₂_map_right_iff]
  refine h.counterparts.imp fun x y hxy => ⟨hxy, h.classify hxy.related, ?_⟩
  rw [h.classify hxy.related]

theorem rel_violationsFrom {ws : List (Weighted ν)} {ws' : List (Weighted μ)}
    (h : Forall₂ (SameWeighted a b R head head') ws ws') (i : Nat) :
    Forall₂ (SameViolation a b R head head') (Ordering.violationsFrom i ws)
      (Ordering.violationsFrom i ws') := by
  induction h generalizing i with
  | nil => exact .nil
  | @cons w w' ws ws' hw hws ih =>
    cases hws with
    | nil => exact .nil
    | cons hc hcs =>
      rw [Ordering.violationsFrom, Ordering.violationsFrom, hw.weight, hc.weight]
      have hmore := ih (i + 1)
      split
      · exact .cons ⟨rfl, hc.element, hc.weight, hc.category, hw.element, hw.weight, hw.category⟩
          hmore
      · exact hmore

theorem SameHead.mem_iff (h : SameHead a b R rank head head') {xs : List ν} {ys : List μ}
    (hxs : Forall₂ (Counterparts a b R head head') xs ys)
    (hxy : Counterparts a b R head head' x y) : x ∈ xs ↔ y ∈ ys := by
  have hu : Relator.BiUnique (Counterparts a b R head head') :=
    ⟨fun _ _ _ h1 h2 => h.unique.1 h1.related h2.related,
      fun _ _ _ h1 h2 => h.unique.2 h1.related h2.related⟩
  exact rel_mem hu hxy hxs

variable [DecidableEq ν] [DecidableEq μ]

theorem SameHead.examine? (h : SameHead a b R rank head head')
    (hxy : Counterparts a b R head head' x y) (ctx : Context) :
    Option.Rel (SameExamined a b R head head') (Analysis.examine? a ctx x)
      (Analysis.examine? b ctx y) := by
  rw [Analysis.examine?, Analysis.examine?, h.elementCheck hxy]
  split
  · exact .none
  · exact .some ⟨hxy, rfl⟩

/-- One analysis of a head in two views. -/
structure SameAnalysis (a : Adapter ν) (b : Adapter μ) (R : ν → μ → Prop) (head : ν) (head' : μ)
    (r : Analysis ν) (r' : Analysis μ) : Prop where
  weights : Forall₂ (SameWeighted a b R head head') r.weights r'.weights
  warnings : Forall₂ (SameWarning a b R head head') r.warnings r'.warnings
  examined : Forall₂ (SameExamined a b R head head') r.examined r'.examined

theorem SameHead.analysis (h : SameHead a b R rank head head') (ctx : Context)
    (options : Options) : SameAnalysis a b R head head' (Analysis.run a ctx options head)
      (Analysis.run b ctx options head') where
  weights := h.weigh
  warnings := by
    rw [Analysis.run, Analysis.run]
    dsimp only
    split
    · exact h.headCheck ctx
    · exact .nil
  examined := by
    rw [Analysis.run, Analysis.run]
    dsimp only
    split
    · exact rel_filterMap (fun w w' hw => h.examine? hw.element ctx) h.weigh
    · exact .nil

theorem SameHead.isFlagged (h : SameHead a b R rank head head') {r : Analysis ν} {r' : Analysis μ}
    (hr : SameAnalysis a b R head head' r r') (hxy : Counterparts a b R head head' x y) :
    r.isFlagged x = r'.isFlagged y := by
  have hw : r.warnings.any (x ∈ ·.elements) = r'.warnings.any (y ∈ ·.elements) :=
    rel_any hr.warnings fun hw => by rw [decide_eq_decide, h.mem_iff hw.elements hxy]
  have he : (r.examined.any fun e => e.element = x && !e.finding.warnings.isEmpty) =
      r'.examined.any fun e => e.element = y && !e.finding.warnings.isEmpty :=
    rel_any hr.examined fun he => by
      rw [he.finding, decide_eq_decide.mpr (h.eq_iff he.element.related hxy.related)]
  rw [Analysis.isFlagged, Analysis.isFlagged, hw, he]

end Entries

def Snapshot.unlocated (s : Snapshot) : Snapshot := { s with location := none }

/-- A report without the name of the adapter and without places in the source. -/
def Report.unlocated (r : Report) : Report where
  adapter := ""
  weights := r.weights.map fun w => { w with element := w.element.unlocated }
  warnings := r.warnings.map fun w => { w with elements := w.elements.map Snapshot.unlocated }
  findings := r.findings.map fun f => { f with element := f.element.unlocated }
  violations := r.violations.map fun v =>
    { v with element := v.element.unlocated, previous := v.previous.unlocated }

theorem rel_findIdx? {α β : Type} {R : α → β → Prop} {p : α → Bool} {q : β → Bool} {xs : List α}
    {ys : List β} (h : Forall₂ R xs ys) (hp : ∀ {x y}, R x y → p x = q y) :
    xs.findIdx? p = ys.findIdx? q := by
  induction h with
  | nil => rfl
  | cons hxy _ ih => rw [findIdx?_cons, findIdx?_cons, hp hxy, ih]

variable [DecidableEq ν] [DecidableEq μ]

theorem SameHead.snapshot (h : SameHead a b R rank head head') {xs : List ν} {ys : List μ}
    (hxs : Forall₂ (Counterparts a b R head head') xs ys)
    (hxy : Counterparts a b R head head' x y) :
    (Report.snapshot a xs x).unlocated = (Report.snapshot b ys y).unlocated := by
  have hi : xs.findIdx? (· = x) = ys.findIdx? (· = y) :=
    rel_findIdx? hxs fun hcd => decide_eq_decide.mpr (h.eq_iff hcd.related hxy.related)
  simp only [Report.snapshot, Snapshot.unlocated, hi, h.tagName hxy.related, h.startTag hxy.related]

theorem SameHead.report (h : SameHead a b R rank head head') (ctx : Context) (options : Options) :
    (Report.run a ctx options head).unlocated = (Report.run b ctx options head').unlocated := by
  have hr := h.analysis ctx options
  rw [Report.run, Report.run]
  generalize Analysis.run a ctx options head = r at hr
  generalize Analysis.run b ctx options head' = r' at hr
  have hxs : Forall₂ (Counterparts a b R head head') (r.weights.map (·.element))
      (r'.weights.map (·.element)) := by
    rw [forall₂_map_left_iff, forall₂_map_right_iff]
    exact hr.weights.imp fun _ _ hw => hw.element
  have hv : Forall₂ (SameViolation a b R head head') r.violations r'.violations :=
    rel_violationsFrom hr.weights 0
  simp only [Report.ofAnalysis, Report.unlocated, map_map, Report.mk.injEq, true_and]
  refine ⟨?_, ?_, ?_, ?_⟩
  · apply map_eq_of_rel hr.weights
    intro _ _ hw
    simp only [Function.comp_apply, h.snapshot hxs hw.element, hw.category, hw.weight,
      h.isFlagged hr hw.element]
  · apply map_eq_of_rel hr.warnings
    intro _ _ hw
    simp only [Function.comp_apply, map_map, hw.message, Report.WarningEntry.mk.injEq, true_and]
    exact map_eq_of_rel hw.elements fun hxy => h.snapshot hxs hxy
  · apply map_eq_of_rel hr.examined
    intro _ _ he
    simp only [Function.comp_apply, h.snapshot hxs he.element, he.finding]
  · apply map_eq_of_rel hv
    intro _ _ hv
    simp only [Function.comp_apply, Violation.message, h.snapshot hxs hv.element,
      h.snapshot hxs hv.previous, hv.index, hv.weight, hv.category, hv.previousWeight,
      hv.previousCategory]

end HeadAudit
