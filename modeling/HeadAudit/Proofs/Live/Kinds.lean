import HeadAudit.Proofs.Live.Elements
import HeadAudit.Proofs.Live.Handles
import HeadAudit.Proofs.Live.Total
import HeadAudit.Proofs.Markup.Layout

namespace HeadAudit.Live

open Relation

namespace Tree

variable {t u : Tree} {p c d q id : NodeId} {reference : Option NodeId}
  {edits : List Edit}

theorem under_of_insertBefore (h : t.insertBefore p c reference = .ok u) (hu : u.Under d q) :
    d = c ∧ q = p ∨ t.Under d q := by
  obtain ⟨-, rfl⟩ := insertBefore_eq_ok_iff.mp h
  split at hu
  · exact .inr hu
  · obtain ⟨a, b, hs⟩ := (t.detach c).exists_splice p c reference
    rw [hs] at hu
    exact (under_of_splice hu).imp_right under_of_detach

structure Upright (t : Tree) : Prop where
  grounded : t.Grounded
  anchored : t.Anchored

theorem Upright.isInclusiveAncestor_iff (h : t.Upright) :
    t.isInclusiveAncestor c p = true ↔ ReflTransGen t.Under p c :=
  h.grounded.isInclusiveAncestor_iff (fun hp _ hd => h.anchored.contains_of_above hp hd) c

theorem Upright.apply (h : t.Upright) (e : Edit) : (t.apply e).Upright := by
  apply apply_induction e h
  case hcreate =>
    intro u content _ hu
    refine ⟨hu.grounded.of_under fun hc => ?_, hu.anchored.create content⟩
    rwa [Under, parent?_create] at hc
  case hinsert =>
    intro u v p c reference _ hv hu
    obtain ⟨hp, -, hno, -⟩ := allowed_of_insertError? (insertBefore_eq_ok_iff.mp hv).1
    have hkeep : ∀ {q}, u.contains q → v.contains q :=
      contains_of_size_le (Change.insert hv).size_le
    constructor
    case grounded =>
      -- The check for cycles has found that the child is not above its new parent.
      apply hu.grounded.of_moved fun d q hd => under_of_insertBefore hv hd
      rw [← hu.isInclusiveAncestor_iff, hno]
      exact Bool.false_ne_true
    case anchored =>
      intro d q hd
      rcases under_of_insertBefore hv hd with ⟨-, rfl⟩ | hd
      · exact hkeep hp
      · exact hkeep (hu.anchored d q hd)
  case hdetach =>
    intro u c hu
    refine ⟨hu.grounded.of_under under_of_detach, fun d q hd => ?_⟩
    rw [contains_detach]
    exact hu.anchored d q (under_of_detach hd)
  case hupdate =>
    intro u v id f _ hv hu
    have hparent := parent?_updateAttrs hv
    obtain ⟨g, -, rfl⟩ := updateAttrs_eq_ok hv
    refine ⟨hu.grounded.of_under fun hc => ?_, fun d q hd => ?_⟩
    · rwa [Under, hparent] at hc
    · rw [Under, hparent] at hd
      rw [contains_update]
      exact hu.anchored d q hd

theorem Upright.run (h : t.Upright) (edits : List Edit) : (t.run edits).Upright := by
  induction edits generalizing t with
  | nil => exact h
  | cons e edits ih => exact ih (h.apply e)

theorem upright_empty : Tree.empty.Upright where
  grounded := forest_empty.grounded
  anchored := fun _ _ hu => forest_empty.linked.contains_parent hu

theorem Under.of_apply {e : Edit} (hu : (t.apply e).Under c p) :
    t.Under c p ∨ e.host? = some p := by
  refine apply_induction (P := fun u => u.Under c p → t.Under c p ∨ e.host? = some p) e .inl
    ?create ?insert ?detach ?update hu
  case create =>
    intro u content _ ih hu
    exact ih (by rwa [Under, parent?_create] at hu)
  case insert =>
    intro u v q d reference hq hv ih hu
    rcases under_of_insertBefore hv hu with ⟨-, rfl⟩ | hu
    · exact .inr hq
    · exact ih hu
  case detach => exact fun u d ih hu => ih (under_of_detach hu)
  case update =>
    intro u v id f _ hv ih hu
    exact ih (by rwa [Under, parent?_updateAttrs hv] at hu)

/-- A node comes under another one by an edit that names that one. -/
theorem Under.of_run (hu : (t.run edits).Under c p) :
    t.Under c p ∨ ∃ e ∈ edits, e.host? = some p := by
  induction edits generalizing t with
  | nil => exact .inl hu
  | cons e edits ih =>
    rcases ih hu with hu | ⟨e', he', hp⟩
    · exact hu.of_apply.imp_right fun hp => ⟨e, List.mem_cons_self, hp⟩
    · exact .inr ⟨e', List.mem_cons_of_mem e he', hp⟩

def OneDocument (t : Tree) : Prop := ∀ id, t.content? id = some .document ↔ id = .root

theorem OneDocument.of_content? (h : t.OneDocument) (hc : ∀ d, u.content? d = t.content? d) :
    u.OneDocument := fun d => by rw [hc, h]

theorem OneDocument.contains_root (h : t.OneDocument) : t.contains .root := by
  obtain ⟨n, hn, -⟩ := Option.map_eq_some_iff.mp ((h .root).mpr rfl)
  exact (t.contains_iff _).mpr ⟨n, hn⟩

theorem OneDocument.apply (h : t.OneDocument) (e : Edit) : (t.apply e).OneDocument := by
  apply apply_induction e h
  case hcreate =>
    intro u content hmade hu d
    have hne : content ≠ .document := by
      rcases Edit.made?_cases hmade with ⟨tag, attrs, rfl⟩ | ⟨s, rfl⟩ | ⟨s, rfl⟩ <;> nofun
    rw [content?_create]
    split
    · next hd =>
      have hroot : d ≠ .root := hd ▸ (ne_of_contains hu.contains_root not_contains_fresh).symm
      exact ⟨fun he => absurd (Option.some.inj he) hne, fun he => absurd he hroot⟩
    · exact hu d
  case hinsert =>
    exact fun u v p c reference _ hv hu => hu.of_content? fun _ => content?_insertBefore hv
  case hdetach => exact fun u c hu => hu.of_content? fun _ => content?_detach
  case hupdate =>
    intro u v id f _ hv hu d
    rw [← hu d]
    rcases content?_updateAttrs (d := d) hv with he | ⟨tag, attrs, ht, he⟩
    · rw [he]
    · simp [ht, he]

theorem OneDocument.run (h : t.OneDocument) (edits : List Edit) : (t.run edits).OneDocument := by
  induction edits generalizing t with
  | nil => exact h
  | cons e edits ih => exact ih (h.apply e)

theorem oneDocument_empty : Tree.empty.OneDocument := by
  intro d
  rw [content?, get?_empty]
  split
  · next hd => simp [hd]
  · next hd => simp [hd]

def isCharacterData (t : Tree) (id : NodeId) : Bool :=
  match t.content? id with
  | some (.text _) | some (.comment _) => true
  | _ => false

theorem isElement_of_content? {tag : String} {attrs : Attributes}
    (h : t.content? id = some (.element tag attrs)) : t.isElement id := by
  obtain ⟨n, hn, hc⟩ := Option.map_eq_some_iff.mp h
  simp [isElement, hn, Node.isElement, hc]

theorem OneDocument.element_or_root (h : t.OneDocument) (hc : t.contains id)
    (hd : t.isCharacterData id = false) : t.isElement id ∨ id = .root := by
  obtain ⟨n, hn⟩ := (t.contains_iff id).mp hc
  rw [isCharacterData, content?, hn] at hd
  cases hcontent : n.content with
  | document => exact .inr ((h id).mp (by rw [content?, hn, Option.map_some, hcontent]))
  | element tag attrs =>
    exact .inl (isElement_of_content? (by rw [content?, hn, Option.map_some, hcontent]))
  | text s => simp [hcontent] at hd
  | comment s => simp [hcontent] at hd

/-- Only elements and the document have children, and no element below another is out of sight. -/
structure Housed (t : Tree) : Prop where
  parents : ∀ c p, t.Under c p → t.isElement p ∨ p = .root
  found : t.size < 2 ^ 32 - 1 → ∀ top x, t.isElement top → t.isElement x →
    ReflTransGen t.Under x top → Below t.adapter top x

/-- No edit names a text or comment as a parent. -/
def Spared (edits : List Edit) (t : Tree) : Prop :=
  ∀ e ∈ edits, ∀ p ∈ e.host?, t.isCharacterData p = false

/-- What kinds of nodes have to do with children, in a tree that edits have made. All but `shown`
holds however many nodes there are, as ids do not wrap around. -/
structure Nests (edits : List Edit) (t : Tree) : Prop where
  /-- The kind of the parent is no reason to refuse an insertion. -/
  refused : ∀ p c reference, t.insertBefore p c reference = .error (.hierarchy c p) ↔
    t.contains p ∧ t.contains c ∧ (c = .root ∨ ReflTransGen t.Under p c)
  named : ∀ c p, t.Under c p → ∃ e ∈ edits, e.host? = some p
  /-- What is seen from an element is what has elements only on its way up there. -/
  shown : t.size < 2 ^ 32 - 1 → ∀ top x, t.isElement x →
    (Below t.adapter top x ↔ ReflTransGen (fun c p => t.Under c p ∧ t.isElement p) x top)
  housed : Spared edits t → t.Housed

theorem insertBefore_eq_hierarchy_iff :
    t.insertBefore p c reference = .error (.hierarchy c p) ↔
      t.contains p ∧ t.contains c ∧ (c = .root ∨ t.isInclusiveAncestor c p) := by
  have herror : t.insertBefore p c reference = .error (.hierarchy c p) ↔
      t.insertError? p c reference = some (.hierarchy c p) := by
    rw [insertBefore]
    cases t.insertError? p c reference <;> simp
  rw [herror]
  unfold insertError?
  by_cases hp : t.contains p
  case neg => simp [hp]
  by_cases hc : t.contains c
  case neg => simp [hp, hc]
  by_cases hh : c = .root ∨ t.isInclusiveAncestor c p
  case pos => simp [hp, hc, hh]
  -- What else an insertion is refused for has to do with the reference.
  cases reference with
  | none => simp [hp, hc, hh]
  | some r =>
    cases hr : t.get? r with
    | none => simp [hp, hc, hh, hr]
    | some n => by_cases hn : n.parent = p <;> simp [hp, hc, hh, hr, hn]

theorem Forest.below_iff (h : t.Forest t.children) {top x : NodeId} (hx : t.isElement x) :
    Below t.adapter top x ↔ ReflTransGen (fun c p => t.Under c p ∧ t.isElement p) x top := by
  constructor
  · intro hb
    induction hb with
    | head => exact .refl
    | child _ hc ih =>
      obtain ⟨hp, hc, -⟩ := mem_adapter_children.mp hc
      exact .head ⟨h.linked.mem_iff.mp hc, hp⟩ (ih hp)
  · intro hup
    induction hup using ReflTransGen.head_induction_on with
    | refl => exact .head
    | head hcp _ ih =>
      obtain ⟨hu, hp⟩ := hcp
      exact (ih hp).child (mem_adapter_children.mpr ⟨hp, h.linked.mem_iff.mpr hu, hx⟩)

theorem Forest.found (h : t.Forest t.children)
    (hparents : ∀ c p, t.Under c p → t.isElement p ∨ p = .root) {top x : NodeId}
    (htop : t.isElement top) (hx : t.isElement x) (hup : ReflTransGen t.Under x top) :
    Below t.adapter top x := by
  rw [h.below_iff hx]
  clear hx
  induction hup using ReflTransGen.head_induction_on with
  | refl => exact .refl
  | @head c p hu hup ih =>
    have hp : t.isElement p := by
      rcases hparents c p hu with hp | rfl
      · exact hp
      -- Nothing is above the document, so the way up has come to its end.
      · rcases hup.cases_head with rfl | ⟨q, hq, -⟩
        · exact htop
        · rw [Under, h.root] at hq
          cases hq
    exact .head ⟨hu, hp⟩ ih

theorem nests_of_run (edits : List Edit) : Nests edits (Tree.empty.run edits) := by
  have hup : (Tree.empty.run edits).Upright := upright_empty.run edits
  have hone : (Tree.empty.run edits).OneDocument := oneDocument_empty.run edits
  have hforest (hs : (Tree.empty.run edits).size < 2 ^ 32 - 1) := forest_of_run edits hs
  have hnamed : ∀ c p, (Tree.empty.run edits).Under c p → ∃ e ∈ edits, e.host? = some p := by
    intro c p hu
    rcases hu.of_run with hu | he
    · exact absurd (forest_empty.linked.mem_iff.mpr hu) List.not_mem_nil
    · exact he
  constructor
  case refused =>
    intro p c reference
    rw [insertBefore_eq_hierarchy_iff, hup.isInclusiveAncestor_iff]
  case named => exact hnamed
  case shown => exact fun hs top x hx => (hforest hs).below_iff hx
  case housed =>
    intro hspared
    have hparents : ∀ c p, (Tree.empty.run edits).Under c p →
        (Tree.empty.run edits).isElement p ∨ p = .root := by
      intro c p hu
      obtain ⟨e, he, hp⟩ := hnamed c p hu
      exact hone.element_or_root (hup.anchored c p hu) (hspared e he p hp)
    exact ⟨hparents, fun hs top x htop hx => (hforest hs).found hparents htop hx⟩

theorem nests_of_run_spikedEdits :
    (Tree.empty.run spikedEdits).size < 2 ^ 32 - 1 ∧
      Spared spikedEdits (Tree.empty.run spikedEdits) ∧
      ReflTransGen (Tree.empty.run spikedEdits).Under ⟨6⟩ ⟨1⟩ ∧ Below spiked ⟨1⟩ ⟨6⟩ := by
  have hs : (Tree.empty.run spikedEdits).size < 2 ^ 32 - 1 := by decide +kernel
  have hspared : Spared spikedEdits (Tree.empty.run spikedEdits) := by
    unfold Spared
    decide +kernel
  have h65 : (Tree.empty.run spikedEdits).parent? ⟨6⟩ = some ⟨5⟩ := by decide +kernel
  have h52 : (Tree.empty.run spikedEdits).parent? ⟨5⟩ = some ⟨2⟩ := by decide +kernel
  have h21 : (Tree.empty.run spikedEdits).parent? ⟨2⟩ = some ⟨1⟩ := by decide +kernel
  have hup : ReflTransGen (Tree.empty.run spikedEdits).Under ⟨6⟩ ⟨1⟩ :=
    .head h65 (.head h52 (.single h21))
  exact ⟨hs, hspared, hup, ((nests_of_run spikedEdits).housed hspared).found hs ⟨1⟩ ⟨6⟩
    (by decide +kernel) (by decide +kernel) hup⟩

def misplacedEdits : List Edit :=
  [.createElement "p" [], .createText "x", .createElement "b" [], .appendChild .root ⟨1⟩,
    .appendChild ⟨1⟩ ⟨2⟩, .appendChild ⟨2⟩ ⟨3⟩]

def misplaced : Tree := Tree.empty.run misplacedEdits

/-- A text takes an element as a child, and the element is out of sight. -/
theorem not_housed_misplaced :
    misplaced.isCharacterData ⟨2⟩ ∧ misplaced.Under ⟨3⟩ ⟨2⟩ ∧ misplaced.Under ⟨2⟩ ⟨1⟩ ∧
      misplaced.isElement ⟨3⟩ ∧ misplaced.isElement ⟨1⟩ ∧ ¬ Below misplaced.adapter ⟨1⟩ ⟨3⟩ ∧
      ¬ misplaced.Housed := by
  have htext : misplaced.isCharacterData ⟨2⟩ := by decide +kernel
  have hu : misplaced.parent? ⟨3⟩ = some ⟨2⟩ := by decide +kernel
  have hu' : misplaced.parent? ⟨2⟩ = some ⟨1⟩ := by decide +kernel
  have hsight : ¬ Below misplaced.adapter ⟨1⟩ ⟨3⟩ := by
    intro hb
    have hm : (⟨3⟩ : NodeId) ∈ [(⟨1⟩ : NodeId)] := hb.mem_of_closed (by decide) (by decide +kernel)
    exact absurd hm (by decide)
  refine ⟨htext, hu, hu', by decide +kernel, by decide +kernel, hsight, fun h => ?_⟩
  rcases h.parents _ _ hu with he | hroot
  · exact absurd he (by decide +kernel)
  · exact absurd hroot (by decide)

end Tree

end HeadAudit.Live
