import HeadAudit.Proofs.Live.Reorder
import HeadAudit.Proofs.Parity.Report
import HeadAudit.Proofs.Report.Integrity

namespace HeadAudit

open List

variable {ν : Type}

structure AlikeWarning (w w' : Warning ν) : Prop where
  message : w.message = w'.message
  elements : w.elements.Perm w'.elements

def AlikeWarnings (ws ws' : List (Warning ν)) : Prop :=
  ∃ ms, ws.Perm ms ∧ Forall₂ AlikeWarning ms ws'

section Alike

variable {ws ws' more more' : List (Warning ν)} {xs ys : List ν} {f g : ν → List (Warning ν)}

theorem alike_of_perm (h : ws.Perm ws') : AlikeWarnings ws ws' :=
  ⟨ws', h, forall₂_same.mpr fun _ _ => ⟨rfl, .refl _⟩⟩

theorem alike_nil : AlikeWarnings ([] : List (Warning ν)) [] := alike_of_perm (.refl [])

theorem alike_singleton (message : String) (h : xs.Perm ys) :
    AlikeWarnings [⟨message, xs⟩] [⟨message, ys⟩] :=
  ⟨_, .refl _, .cons ⟨rfl, h⟩ .nil⟩

theorem AlikeWarnings.append (h : AlikeWarnings ws ws') (h' : AlikeWarnings more more') :
    AlikeWarnings (ws ++ more) (ws' ++ more') := by
  obtain ⟨ms, hp, hf⟩ := h
  obtain ⟨ms', hp', hf'⟩ := h'
  exact ⟨ms ++ ms', hp.append hp', rel_append hf hf'⟩

theorem alike_flatMap (hp : xs.Perm ys) (h : ∀ x ∈ ys, f x = g x) :
    AlikeWarnings (xs.flatMap f) (ys.flatMap g) := by
  apply alike_of_perm
  rw [flatMap_def (f := g), ← map_congr_left h, ← flatMap_def]
  exact hp.flatMap_right f

theorem alike_ite (p : Prop) [Decidable p] (h : AlikeWarnings ws ws')
    (h' : AlikeWarnings more more') :
    AlikeWarnings (if p then ws else more) (if p then ws' else more') := by
  split
  · exact h
  · exact h'

theorem alike_titleWarnings (h : xs.Perm ys) :
    AlikeWarnings (Check.Head.titleWarnings xs) (Check.Head.titleWarnings ys) := by
  rw [Check.Head.titleWarnings, Check.Head.titleWarnings, h.length_eq]
  exact alike_ite _ alike_nil (alike_singleton _ h)

theorem alike_viewportWarnings (h : xs.Perm ys) :
    AlikeWarnings (Check.Head.viewportWarnings xs) (Check.Head.viewportWarnings ys) := by
  rw [Check.Head.viewportWarnings, Check.Head.viewportWarnings, h.length_eq]
  exact alike_ite _ alike_nil (alike_singleton _ h)

theorem alike_baseWarnings (h : xs.Perm ys) :
    AlikeWarnings (Check.Head.baseWarnings xs) (Check.Head.baseWarnings ys) := by
  rw [Check.Head.baseWarnings, Check.Head.baseWarnings, h.length_eq]
  exact alike_ite _ (alike_singleton _ h) alike_nil

theorem alike_policyWarnings (h : xs.Perm ys) :
    AlikeWarnings (Check.Head.policyWarnings xs) (Check.Head.policyWarnings ys) := by
  rw [Check.Head.policyWarnings, Check.Head.policyWarnings, h.isEmpty_eq]
  exact alike_ite _ alike_nil (alike_singleton _ h)

end Alike

def weighed (a : Adapter ν) (x : ν) : Weighted ν :=
  { element := x, category := Rule.classify a x, weight := (Rule.classify a x).weight }

theorem weigh_eq_map (a : Adapter ν) (head : ν) :
    weigh a head = (a.children head).map (weighed a) := rfl

/-- Two views of a head in which the same nodes look the same, and the head has its children in
another order. -/
structure Shuffled (a b : Adapter ν) (P : ν → Prop) (rank : ν → Nat) (head : ν) : Prop extends
    Similar a b (fun x y => x = y ∧ P x) rank where
  perm : (a.children head).Perm (b.children head)
  holds : ∀ x ∈ b.children head, P x
  rank_le : ∀ x, rank x ≤ a.height
  rank_le' : ∀ x, rank x ≤ b.height

/-- A later analysis finds what an earlier one did, except that it has nothing against the order. -/
structure Analysis.Settled (r r' : Analysis ν) : Prop where
  weights : r'.weights.Perm r.weights
  violations : r'.violations = []
  warnings : AlikeWarnings r.warnings r'.warnings

namespace Shuffled

variable {a b : Adapter ν} {P : ν → Prop} {rank : ν → Nat} {head x : ν}

theorem related (h : Shuffled a b P rank head) (hx : x ∈ b.children head) : x = x ∧ P x :=
  ⟨rfl, h.holds x hx⟩

theorem weighed_eq (h : Shuffled a b P rank head) (hx : x ∈ b.children head) :
    weighed a x = weighed b x := by
  rw [weighed, weighed, h.classify (h.related hx)]

theorem filter (h : Shuffled a b P rank head) {p q : ν → Bool}
    (hpq : ∀ x ∈ b.children head, p x = q x) :
    ((a.children head).filter p).Perm ((b.children head).filter q) := by
  rw [← filter_congr hpq]
  exact h.perm.filter p

theorem placementWarnings (h : Shuffled a b P rank head) (hx : x ∈ b.children head) :
    Check.Head.placementWarnings a x = Check.Head.placementWarnings b x := by
  have hr := h.related hx
  rw [Check.Head.placementWarnings, Check.Head.placementWarnings, h.isLegal hr, h.tagName hr,
    h.illegalBelow hr (Nat.lt_succ_of_le (h.rank_le x)) (Nat.lt_succ_of_le (h.rank_le' x))]

theorem trialWarnings (h : Shuffled a b P rank head) (ctx : Context)
    (hx : x ∈ b.children head) :
    Check.Head.trialWarnings a ctx x = Check.Head.trialWarnings b ctx x := by
  rw [Check.Head.trialWarnings, Check.Head.trialWarnings, Check.TrialToken.token,
    Check.TrialToken.token, h.attr (h.related hx)]

theorem headCheck (h : Shuffled a b P rank head) (ctx : Context) :
    AlikeWarnings (Check.Head.check a ctx head) (Check.Head.check b ctx head) := by
  have hselects : ∀ pattern, ∀ x ∈ b.children head, a.selects x pattern = b.selects x pattern :=
    fun pattern x hx => h.selects (h.related hx) pattern
  rw [Check.Head.check, Check.Head.check]
  refine .append (.append (.append (.append (.append ?_ ?_) ?_) ?_) ?_) ?_
  · exact alike_titleWarnings (h.filter (hselects _))
  · exact alike_viewportWarnings (h.filter (hselects _))
  · exact alike_baseWarnings (h.filter (hselects _))
  · exact alike_policyWarnings (h.filter fun x hx => h.selectsAny (h.related hx) _)
  · exact alike_flatMap h.perm fun x hx => h.placementWarnings hx
  · exact alike_flatMap (h.filter (hselects _)) fun x hx =>
      h.trialWarnings ctx (mem_of_mem_filter hx)

/-- What is found in a head does not depend on the order of its children. -/
theorem settled [DecidableEq ν] (h : Shuffled a b P rank head) (ctx : Context) (options : Options)
    (hw : (weigh b head).Pairwise fun w w' => w'.weight ≤ w.weight) :
    (Analysis.run a ctx options head).Settled (Analysis.run b ctx options head) where
  weights := by
    change (weigh b head).Perm (weigh a head)
    rw [weigh_eq_map, weigh_eq_map, ← map_congr_left fun x hx => h.weighed_eq hx]
    exact (h.perm.map _).symm
  violations := Ordering.violationsFrom_eq_nil_iff.mpr hw
  warnings := by
    rw [Analysis.run, Analysis.run]
    dsimp only
    exact alike_ite _ (h.headCheck ctx) alike_nil

end Shuffled

namespace Live.Tree

open Relation

variable {t u : Tree} {head : NodeId} {order : List (Weighted NodeId)}

/-- The children of an element are appended to it again in any order. -/
theorem Forest.shuffled (h : t.Forest t.children) (he : t.isElement head) {ids : List NodeId}
    (hp : ids.Perm (t.adapter.children head)) :
    ∃ u, t.appendAll head ids = .ok u ∧ u.adapter.children head = ids ∧
      Shuffled t.adapter u.adapter (TransGen t.Under · head) t.rank head := by
  have hmem : ∀ c ∈ ids, c ∈ t.children head ∧ t.isElement c := fun c hc =>
    (mem_adapter_children.mp (hp.mem_iff.mp hc)).2
  have hn : ids.Nodup := hp.nodup_iff.mpr ((h.rooted head).nodup .head)
  obtain ⟨u, hu, hr⟩ := h.appendAll hn fun c hc => (hmem c hc).1
  have hrest : ((t.children head).filter (· ∉ ids)).filter t.isElement = [] := by
    rw [filter_eq_nil_iff]
    intro c hc he'
    obtain ⟨hm, hnot⟩ := mem_filter.mp hc
    rw [decide_eq_true_iff] at hnot
    exact hnot (hp.mem_iff.mpr (mem_adapter_children.mpr ⟨he, hm, he'⟩))
  have hids : ids.filter t.isElement = ids := filter_eq_self.mpr fun c hc => (hmem c hc).2
  have hchildren : u.adapter.children head = ids := by
    rw [hr.adapter_children_self he, filter_append, hrest, hids, nil_append]
  have hle : ∀ x, t.rank x ≤ t.size := fun x => Nat.sub_le _ _
  refine ⟨u, hu, hchildren, hr.similar h, ?_, ?_, hle, fun x => ?_⟩
  · rw [hchildren]
    exact hp.symm
  · rw [hchildren]
    exact fun c hc => .single (h.linked.mem_iff.mp (hmem c hc).1)
  · exact (hle x).trans hr.size.ge

/-- Whatever was done to an empty tree: the children of an element can be put in any order in which
their weights do not grow, and then they have the same weights and the same warnings but no
violations. -/
theorem settled_of_appendAll (edits : List Edit) (hs : (Tree.empty.run edits).size < 2 ^ 32 - 1)
    (he : (Tree.empty.run edits).isElement head) (ctx : Context) (options : Options)
    (hp : order.Perm (weigh (Tree.empty.run edits).adapter head))
    (hw : order.Pairwise fun w w' => w'.weight ≤ w.weight) :
    ∃ u, (Tree.empty.run edits).appendAll head (order.map (·.element)) = .ok u ∧
      weigh u.adapter head = order ∧
      (Analysis.run (Tree.empty.run edits).adapter ctx options head).Settled
        (Analysis.run u.adapter ctx options head) := by
  have hf := forest_of_changes (Tree.empty.changes_run edits) forest_empty.children hs.le
  generalize Tree.empty.run edits = t at hf he hp
  have hids := hp.map (·.element)
  rw [map_element_weigh] at hids
  obtain ⟨u, hu, hchildren, hr⟩ := hf.shuffled he hids
  have horder : weigh u.adapter head = order := by
    rw [weigh_eq_map, hchildren, List.map_map]
    have hsame : ∀ w ∈ order, (weighed u.adapter ∘ (·.element)) w = w := by
      intro w hm
      have hx : w.element ∈ u.adapter.children head := by
        rw [hchildren]
        exact mem_map_of_mem hm
      obtain ⟨x, -, rfl⟩ := mem_map.mp (hp.mem_iff.mp hm)
      exact (hr.weighed_eq hx).symm
    rw [map_congr_left hsame, map_id']
  refine ⟨u, hu, horder, hr.settled ctx options ?_⟩
  rwa [horder]

def lateEncodingEdits : List Edit :=
  [.createElement "head" [], .appendChild .root ⟨1⟩, .createElement "script" [("src", "a.js")],
    .createText "x", .createElement "title" [], .createComment "late",
    .createElement "meta" [("charset", "utf-8")], .appendChild ⟨1⟩ ⟨2⟩, .appendChild ⟨1⟩ ⟨3⟩,
    .appendChild ⟨1⟩ ⟨4⟩, .appendChild ⟨1⟩ ⟨5⟩, .appendChild ⟨1⟩ ⟨6⟩]

def encodingFirst : List (Weighted NodeId) :=
  [⟨⟨6⟩, .pragma, 10⟩, ⟨⟨4⟩, .title, 9⟩, ⟨⟨2⟩, .syncScript, 5⟩]

def lateEncoding : Tree := Tree.empty.run lateEncodingEdits

theorem settled_of_appendAll_encodingFirst :
    lateEncoding.size < 2 ^ 32 - 1 ∧ lateEncoding.isElement ⟨1⟩ ∧
      encodingFirst.Perm (weigh lateEncoding.adapter ⟨1⟩) ∧
      (encodingFirst.Pairwise fun w w' => w'.weight ≤ w.weight) ∧
      Ordering.violations (weigh lateEncoding.adapter ⟨1⟩) ≠ [] ∧
      ∃ u, lateEncoding.appendAll ⟨1⟩ (encodingFirst.map (·.element)) = .ok u ∧
        weigh u.adapter ⟨1⟩ = encodingFirst ∧
        (Analysis.run lateEncoding.adapter { now := 0 } {} ⟨1⟩).Settled
          (Analysis.run u.adapter { now := 0 } {} ⟨1⟩) := by
  have hs : lateEncoding.size < 2 ^ 32 - 1 := by decide +kernel
  have he : lateEncoding.isElement ⟨1⟩ := by decide +kernel
  have hp : encodingFirst.Perm (weigh lateEncoding.adapter ⟨1⟩) := by decide +kernel
  have hw : encodingFirst.Pairwise fun w w' => w'.weight ≤ w.weight := by decide
  have hv : Ordering.violations (weigh lateEncoding.adapter ⟨1⟩) ≠ [] := by decide +kernel
  have hall := settled_of_appendAll lateEncodingEdits hs he { now := 0 } {} hp hw
  exact ⟨hs, he, hp, hw, hv, hall⟩

end Live.Tree

end HeadAudit
