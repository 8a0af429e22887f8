import HeadAudit.Proofs.Adapter.Trees
import HeadAudit.Proofs.Live.Names
import HeadAudit.Proofs.Live.Reorder

namespace HeadAudit

open Relation

structure Adapter.FoldsNames {ν : Type} (a : Adapter ν) : Prop where
  tagName : ∀ x, ∀ c ∈ (a.tagName x).toList, c.isUpper = false
  attrNames : ∀ x, ∀ name ∈ a.attrNames x, ∀ c ∈ name.toList, c.isUpper = false
  attr : ∀ x {name name'}, Ascii.same name name' → a.attr x name = a.attr x name'
  isSome_attr : ∀ x name, (a.attr x name).isSome ↔ Ascii.lower name ∈ a.attrNames x

namespace Live.Tree

variable {t : Tree} {p c : NodeId}

theorem adapter_under_iff : t.adapter.Under c p ↔ t.Under c p ∧ t.isElement p := by
  change (t.parent? c).filter t.isElement = some p ↔ _
  rw [Option.filter_eq_some_iff, Under]

theorem Forest.ranked (h : t.Forest t.children) : t.adapter.Ranked t.rank where
  rank_lt := fun hu => h.rank_lt (adapter_under_iff.mp hu).1
  rank_le := fun _ => Nat.sub_le _ _

theorem Forest.mem_adapter_children_iff (h : t.Forest t.children) :
    c ∈ t.adapter.children p ↔ t.isElement c ∧ t.adapter.parent c = some p := by
  have hu : t.adapter.parent c = some p ↔ _ := adapter_under_iff
  rw [mem_adapter_children, h.linked.mem_iff, hu]
  exact ⟨fun ⟨hp, hc, he⟩ => ⟨he, hc, hp⟩, fun ⟨he, hc, hp⟩ => ⟨hp, hc, he⟩⟩

/-- Where the links of a tree are in order, so are the elements that it shows. -/
theorem Forest.isForest (h : t.Forest t.children) : t.adapter.IsForest := by
  apply h.ranked.isForest
  · intro c p hc
    obtain ⟨hp, -, he⟩ := mem_adapter_children.mp hc
    exact ⟨hp, he⟩
  · exact fun p => (h.rooted p).nodup .head
  · intro c p hc
    rw [h.mem_adapter_children_iff]
    exact (and_iff_right hc).symm

theorem Forest.isFinite (h : t.Forest t.children) (p : NodeId) : t.adapter.IsFinite p :=
  ⟨t.rank, h.ranked.rank_le p,
    fun _ hc => h.rank_lt (h.linked.mem_iff.mp (mem_adapter_children.mp hc).2.1)⟩

theorem Forest.isTree (h : t.Forest t.children) (he : t.isElement p)
    (htop : t.adapter.parent p = none) : t.adapter.IsTree p where
  isElement := he
  top := htop
  mem_iff := fun _ => h.mem_adapter_children_iff
  nodup := fun _ => (h.rooted _).nodup .head
  finite := h.isFinite p

theorem Lowered.foldsNames (h : t.Lowered) : t.adapter.FoldsNames := by
  constructor
  case tagName =>
    intro x c hc
    change c ∈ (((t.get? x).bind Node.tag?).getD "").toList at hc
    cases htag : (t.get? x).bind Node.tag? with
    | none =>
      rw [htag] at hc
      cases hc
    | some tag =>
      obtain ⟨n, hn, htag'⟩ := Option.bind_eq_some_iff.mp htag
      rw [htag, Option.getD_some] at hc
      rw [Node.tag?] at htag'
      split at htag'
      · next tag' attrs hcontent =>
        obtain rfl := Option.some.inj htag'
        rw [← (h.element hn hcontent).1] at hc
        exact Ascii.isUpper_of_mem_lower hc
      · cases htag'
  case attrNames =>
    intro x name hm c hc
    change name ∈ ((t.get? x).map (·.attrs.map (·.1))).getD [] at hm
    cases hn : t.get? x with
    | none =>
      rw [hn] at hm
      cases hm
    | some n =>
      rw [hn] at hm
      obtain ⟨attr, hattr, rfl⟩ := List.mem_map.mp hm
      rw [← h.attrs hn attr hattr] at hc
      exact Ascii.isUpper_of_mem_lower hc
  case attr =>
    intro x name name' hs
    change (t.get? x).bind (Attributes.get? ·.attrs name) =
      (t.get? x).bind (Attributes.get? ·.attrs name')
    exact congrArg _ (funext fun n => Attributes.get?_congr hs)
  case isSome_attr =>
    intro x name
    change ((t.get? x).bind (Attributes.get? ·.attrs name)).isSome ↔
      Ascii.lower name ∈ ((t.get? x).map (·.attrs.map (·.1))).getD []
    cases hn : t.get? x with
    | none => simp
    | some n => exact Attributes.isSome_get?_iff (h.attrs hn)

/-- Whatever is done to an empty tree, its elements stand in a forest under names in lower case. -/
theorem isForest_of_run (edits : List Edit) (hs : (Tree.empty.run edits).size < 2 ^ 32 - 1) :
    (Tree.empty.run edits).adapter.IsForest ∧ (Tree.empty.run edits).adapter.FoldsNames := by
  have hf := forest_of_changes (Tree.empty.changes_run edits) forest_empty.children hs.le
  exact ⟨hf.isForest, (lowered_empty.run edits).foldsNames⟩

def scatteredEdits : List Edit :=
  [.createElement "HTML" [], .createElement "Head" [], .createElement "META" [("CharSet", "utf-8")],
    .createText "x", .createElement "title" [], .createComment "y", .createElement "link" [],
    .createElement "svg" [], .appendChild .root ⟨1⟩, .appendChild ⟨1⟩ ⟨2⟩, .appendChild ⟨2⟩ ⟨3⟩,
    .appendChild ⟨2⟩ ⟨4⟩, .appendChild ⟨2⟩ ⟨5⟩, .appendChild ⟨2⟩ ⟨6⟩, .appendChild ⟨2⟩ ⟨7⟩,
    .appendChild .root ⟨8⟩, .setAttribute ⟨3⟩ "NAME" "a", .removeAttribute ⟨3⟩ "charset",
    .insertBefore ⟨2⟩ ⟨7⟩ (some ⟨3⟩), .appendChild ⟨7⟩ ⟨1⟩, .removeChild ⟨1⟩ ⟨2⟩, .setText ⟨5⟩ "t"]

def scattered : Tree := Tree.empty.run scatteredEdits

theorem isForest_of_run_scattered :
    scattered.size < 2 ^ 32 - 1 ∧ scattered.adapter.IsForest ∧ scattered.adapter.FoldsNames ∧
      scattered.adapter.children ⟨2⟩ = [⟨7⟩, ⟨3⟩, ⟨5⟩] ∧
      scattered.adapter.siblings ⟨3⟩ = [⟨7⟩, ⟨5⟩] ∧ scattered.adapter.root ⟨5⟩ = ⟨2⟩ ∧
      scattered.adapter.attr ⟨3⟩ "Name" = some "a" := by
  have hs : scattered.size < 2 ^ 32 - 1 := by decide +kernel
  obtain ⟨hforest, hnames⟩ := isForest_of_run scatteredEdits hs
  have hsame : Ascii.same "Name" "name" := by
    rw [Ascii.same_iff, ← String.toList_inj, Ascii.toList_lower, Ascii.toList_lower]
    decide
  have hname : scattered.adapter.attr ⟨3⟩ "name" = some "a" := by decide +kernel
  exact ⟨hs, hforest, hnames, by decide +kernel, by decide +kernel, by decide +kernel,
    (hnames.attr ⟨3⟩ hsame).trans hname⟩

end Live.Tree

end HeadAudit
