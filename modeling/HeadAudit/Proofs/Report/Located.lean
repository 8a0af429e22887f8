import HeadAudit.Proofs.Report.Integrity

namespace HeadAudit

open List

variable {ν : Type}

def Adapter.withLocations (a : Adapter ν) (location : ν → Option Location)
    (capabilities : List Capability) : Adapter ν :=
  { a with location, capabilities }

/-- The same elements, with other locations and another bound for chains of them. -/
def Adapter.recast (a : Adapter ν) (location : ν → Option Location)
    (capabilities : List Capability) (height : Nat) : Adapter ν :=
  { a with location, capabilities, height }

/-- What a walk from each node tells is the same with `n` for a bound. -/
structure Adapter.FitsIn [DecidableEq ν] (a : Adapter ν) (n : Nat) : Prop where
  ascend : ∀ x, a.ascend n x = a.ascend a.height x
  seek : ∀ target x pos, a.seek target (n + 1) x pos = a.seek target (a.height + 1) x pos
  illegalBelow : ∀ x,
    Check.Head.illegalBelow a (n + 1) x = Check.Head.illegalBelow a (a.height + 1) x

section Unasked

variable {location : ν → Option Location} {capabilities : List Capability} {n : Nat}
  (a : Adapter ν)

theorem ascend_recast (fuel : Nat) (node : ν) :
    (a.recast location capabilities n).ascend fuel node = a.ascend fuel node := by
  induction fuel generalizing node with
  | zero => rfl
  | succ fuel ih =>
    rw [Adapter.ascend, Adapter.ascend]
    simp only [ih]
    rfl

theorem sizeBelow_recast (fuel : Nat) (node : ν) :
    Check.Head.sizeBelow (a.recast location capabilities n) fuel node =
      Check.Head.sizeBelow a fuel node := by
  induction fuel generalizing node with
  | zero => rfl
  | succ fuel ih =>
    rw [Check.Head.sizeBelow, Check.Head.sizeBelow]
    simp only [ih]
    rfl

theorem illegalOn_recast (fuel : Nat) (stack : List ν) :
    Check.Head.illegalOn (a.recast location capabilities n) fuel stack =
      Check.Head.illegalOn a fuel stack := by
  induction fuel generalizing stack with
  | zero => rfl
  | succ fuel ih =>
    cases stack with
    | nil => rfl
    | cons node stack =>
      rw [Check.Head.illegalOn, Check.Head.illegalOn]
      simp only [ih]
      rfl

theorem illegalBelow_recast (fuel : Nat) (node : ν) :
    Check.Head.illegalBelow (a.recast location capabilities n) fuel node =
      Check.Head.illegalBelow a fuel node := by
  rw [Check.Head.illegalBelow, Check.Head.illegalBelow, sizeBelow_recast, illegalOn_recast]
  rfl

theorem token_recast (node : ν) :
    Check.TrialToken.token (a.recast location capabilities n) node =
      Check.TrialToken.token a node := rfl

theorem trialWarnings_recast (ctx : Context) :
    Check.Head.trialWarnings (a.recast location capabilities n) ctx =
      Check.Head.trialWarnings a ctx := by
  funext node
  unfold Check.Head.trialWarnings
  rw [token_recast]

theorem trialToken_recast (ctx : Context) (node : ν) :
    Check.TrialToken.check (a.recast location capabilities n) ctx node =
      Check.TrialToken.check a ctx node := by
  unfold Check.TrialToken.check
  rw [token_recast]

variable [DecidableEq ν]

theorem seek_recast (target : ν) (fuel : Nat) (node : ν) (pos : Nat) :
    (a.recast location capabilities n).seek target fuel node pos =
      a.seek target fuel node pos := by
  induction fuel generalizing node pos with
  | zero => rfl
  | succ fuel ih =>
    rw [Adapter.seek, Adapter.seek]
    simp only [ih]
    rfl

variable {a} (h : a.FitsIn n)

include h

theorem headCheck_recast (ctx : Context) (head : ν) :
    Check.Head.check (a.recast location capabilities n) ctx head =
      Check.Head.check a ctx head := by
  have hp : Check.Head.placementWarnings (a.recast location capabilities n) =
      Check.Head.placementWarnings a := funext fun x => by
    rw [Check.Head.placementWarnings, Check.Head.placementWarnings, ← h.illegalBelow x,
      illegalBelow_recast]
    rfl
  rw [Check.Head.check, hp, trialWarnings_recast]
  rfl

theorem endOffset?_recast (node : ν) :
    (a.recast location capabilities n).endOffset? node = a.endOffset? node := by
  have hroot : (a.recast location capabilities n).root node = a.root node := by
    rw [Adapter.root, ascend_recast]
    exact h.ascend node
  rw [Adapter.endOffset?, Adapter.endOffset?, hroot, seek_recast, ← h.seek]
  rfl

theorem charset_recast (node : ν) :
    Check.Charset.check (a.recast location capabilities n) node =
      Check.Charset.check a node := by
  rw [Check.Charset.check, Check.Charset.warnings, endOffset?_recast h]
  rfl

theorem elementCheck_recast (ctx : Context) (node : ν) :
    Check.Element.check (a.recast location capabilities n) ctx node =
      Check.Element.check a ctx node := by
  rw [Check.Element.check, trialToken_recast, charset_recast h]
  rfl

/-- No analysis asks for a location, or for more than a bound that every walk fits in. -/
theorem analysis_recast (ctx : Context) (options : Options) (head : ν) :
    Analysis.run (a.recast location capabilities n) ctx options head =
      Analysis.run a ctx options head := by
  have he : Analysis.examine? (a.recast location capabilities n) ctx =
      Analysis.examine? a ctx := funext fun x => by
    rw [Analysis.examine?, elementCheck_recast h]
    rfl
  rw [Analysis.run, headCheck_recast h, he]
  rfl

end Unasked

theorem analysis_withLocations {location : ν → Option Location} {capabilities : List Capability}
    [DecidableEq ν] (a : Adapter ν) (ctx : Context) (options : Options) (head : ν) :
    Analysis.run (a.withLocations location capabilities) ctx options head =
      Analysis.run a ctx options head :=
  analysis_recast ⟨fun _ => rfl, fun _ _ _ => rfl, fun _ => rfl⟩ ctx options head

def Snapshot.locate (location : Nat → Option Location) (s : Snapshot) : Snapshot :=
  { s with location := s.index.bind location }

namespace Report

def locate (location : Nat → Option Location) (r : Report) : Report where
  adapter := r.adapter
  weights := r.weights.map fun w => { w with element := w.element.locate location }
  warnings := r.warnings.map fun w =>
    { w with elements := w.elements.map (Snapshot.locate location) }
  findings := r.findings.map fun f => { f with element := f.element.locate location }
  violations := r.violations.map fun v =>
    { v with element := v.element.locate location, previous := v.previous.locate location }

variable {location : ν → Option Location} {capabilities : List Capability} [DecidableEq ν]

theorem snapshot_withLocations (a : Adapter ν) {xs : List ν} (h : xs.Nodup) {x : ν} (hx : x ∈ xs) :
    snapshot (a.withLocations location capabilities) xs x =
      (snapshot a xs x).locate fun i => xs[i]?.bind location := by
  obtain ⟨i, -, hi⟩ : ∃ i < xs.length, (snapshot a xs x).index = some i := exists_index h hx
  have hl : ((snapshot a xs x).index.bind fun i => xs[i]?.bind location) = location x := by
    rw [hi, Option.bind_some, (index_snapshot h).mp hi, Option.bind_some]
  rw [Snapshot.locate, hl]
  rfl

theorem ofAnalysis_withLocations (a : Adapter ν) {r : Analysis ν} (h : r.Closed) :
    ofAnalysis (a.withLocations location capabilities) r =
      (ofAnalysis a r).locate fun i => (r.weights.map (·.element))[i]?.bind location := by
  have hs : ∀ x ∈ r.weights.map (·.element),
      snapshot (a.withLocations location capabilities) (r.weights.map (·.element)) x =
        (snapshot a (r.weights.map (·.element)) x).locate fun i =>
          (r.weights.map (·.element))[i]?.bind location :=
    fun x hx => snapshot_withLocations a h.nodup hx
  simp only [ofAnalysis, locate, map_map, Report.mk.injEq]
  refine ⟨rfl, ?_, ?_, ?_, ?_⟩
  · apply map_congr_left
    intro w hw
    simp only [Function.comp_apply, hs w.element (mem_map_of_mem hw)]
  · apply map_congr_left
    intro w hw
    simp only [Function.comp_apply, map_map, WarningEntry.mk.injEq, true_and]
    exact map_congr_left fun x hx => hs x (h.warnings w hw x hx)
  · apply map_congr_left
    intro e he
    simp only [Function.comp_apply, hs e.element (h.examined.subset (mem_map_of_mem he))]
  · apply map_congr_left
    intro v hv
    obtain ⟨k, first, second, hfirst, hsecond, -, rfl⟩ := Ordering.mem_violationsFrom.mp hv
    have hfirst := mem_of_getElem? hfirst
    have hsecond := mem_of_getElem? hsecond
    simp only [Function.comp_apply, Ordering.violation, hs first.element (mem_map_of_mem hfirst),
      hs second.element (mem_map_of_mem hsecond)]

/-- The report of a view with locations is that of the view without them, where the locations of
the children are filled in. -/
theorem run_withLocations (a : Adapter ν) {head : ν} (h : (a.children head).Nodup) (ctx : Context)
    (options : Options) :
    run (a.withLocations location capabilities) ctx options head =
      (run a ctx options head).locate fun i => (a.children head)[i]?.bind location := by
  have hw : ((Analysis.run a ctx options head).weights.map (·.element)) = a.children head :=
    map_element_weigh a head
  rw [run, run, analysis_withLocations,
    ofAnalysis_withLocations a (Analysis.closed_run h ctx options), hw]

end Report

end HeadAudit
