import HeadAudit.Proofs.Live.Insertion
import HeadAudit.Proofs.Live.Removal

namespace HeadAudit.Live.Tree

open NodeId Relation

def textOnly (t : Tree) (s : String) : List NodeId := if s.isEmpty then [] else [⟨t.size⟩]

/-- The trees before and after a text was set, with their lists of children and contents. -/
structure Retexted (t u : Tree) (id : NodeId) (s : String) : Prop where
  forest : u.Forest u.children
  children : u.children = Function.update t.children id (t.textOnly s)
  content? : ∀ {d}, t.contains d → u.content? d = t.content? d
  new : ¬ s.isEmpty → u.content? ⟨t.size⟩ = some (.text s)
  size : u.size = t.size + (t.textOnly s).length

/-- What becomes of a child that has to give way to a text. -/
structure Released (t u : Tree) (id c : NodeId) : Prop where
  node : u.get? c = (t.get? c).map stripped
  unlisted : ∀ q, c ∉ u.children q
  below_iff : ∀ d, ReflTransGen u.Under d c ↔ ReflTransGen t.Under d c
  below : ∀ d, TransGen t.Under d c → u.get? d = t.get? d
  insertable : ∀ p reference, u.contains p → ¬ ReflTransGen u.Under p c →
    (∀ r, reference = some r → r ∈ u.children p) →
      ∃ v, u.insertBefore p c reference = .ok v ∧ Moved u v p c reference
  not_above : ¬ ReflTransGen u.Under id c

/-- What becomes of a tree in which a text is set. -/
structure Replaced (t u : Tree) (id : NodeId) (s : String) : Prop where
  children : u.children id = t.textOnly s
  new : ¬ s.isEmpty → t.get? ⟨t.size⟩ = none ∧
    u.get? ⟨t.size⟩ = some { parent := id, content := .text s }
  textContent : u.textContent id = s
  released : ∀ c ∈ t.children id, Released t u id c
  children_of_ne : ∀ q, q ≠ id → u.children q = t.children q
  node : u.get? id = (t.get? id).map fun n =>
    { n with firstChild := firstOf (t.textOnly s), lastChild := lastOf (t.textOnly s) }
  others : ∀ d, t.contains d → d ≠ id → d ∉ t.children id → u.get? d = t.get? d
  size : u.size = t.size + (t.textOnly s).length

variable {t u : Tree} {p c d id : NodeId} {ids : List NodeId} {s : String}

theorem Forest.regrouped_detach (h : t.Forest t.children) (hk : t.children p = c :: ids) :
    Regrouped t (t.detach c) p ids where
  forest := h.detach.children
  size := size_detach
  content? := fun _ => content?_detach
  children := by
    funext q
    have hk' : t.children p = [] ++ c :: ids := hk
    rw [h.detach.linked.children_eq, h.linked.erase_eq hk', Function.update_apply, List.nil_append]

/-- At every step of the loop, the nodes that it has still to take out are the children that are
left. -/
theorem Forest.regrouped_detachAll (h : t.Forest t.children) (hk : t.children p = ids) :
    Regrouped t (ids.foldl Tree.detach t) p [] := by
  induction ids generalizing t with
  | nil => exact ⟨h, rfl, fun _ => rfl, by rw [List.foldl_nil, ← hk, Function.update_eq_self]⟩
  | cons c ids ih =>
    have hr := h.regrouped_detach hk
    exact hr.trans (ih hr.forest (by rw [hr.children, Function.update_self]))

/-- A text can be set in any node. -/
theorem Forest.retexted (h : t.Forest t.children) (hid : t.contains id)
    (hs : t.size < NodeId.absent.index) (s : String) :
    ∃ u, t.setText id s = (u, .ok ()) ∧ Retexted t u id s := by
  have hb : Regrouped t (t.bare id) id [] := h.regrouped_detachAll rfl
  by_cases hempty : s.isEmpty
  · have htext : t.textOnly s = [] := if_pos hempty
    refine ⟨t.bare id, ?_, hb.forest, ?_, fun _ => hb.content? _, fun hn => absurd hempty hn, ?_⟩
    · rw [setText_eq, if_pos hempty]
    · rw [hb.children, htext]
    · rw [hb.size, htext, List.length_nil, Nat.add_zero]
  · have htext : t.textOnly s = [⟨t.size⟩] := if_neg hempty
    have hid' : (t.bare id).contains id := by
      rw [contains_iff_lt, hb.size]
      exact (t.contains_iff_lt id).mp hid
    obtain ⟨u, hu, hf, hcontent, hsize⟩ :=
      hb.forest.exists_append hid' (by rwa [hb.size]) (.text s)
    rw [hb.children, Function.update_self, Function.update_idem, List.nil_append, hb.size,
      ← htext] at hf
    rw [hb.size] at hsize hcontent
    refine ⟨u, ?_, hf.children, funext hf.linked.children_eq, fun hd => ?_,
      fun _ => (hcontent _).trans (if_pos rfl), ?_⟩
    · rw [setText_eq, if_neg hempty, hu]
    · rw [hcontent, if_neg (ne_of_contains hd not_contains_fresh), hb.content?]
    · rw [hsize, htext, List.length_singleton]

theorem not_mem_textOnly (hd : t.contains d) : d ∉ t.textOnly s := by
  rw [textOnly]
  split
  · exact List.not_mem_nil
  · rw [List.mem_singleton]
    exact ne_of_contains hd not_contains_fresh

theorem length_textOnly_le (t : Tree) (s : String) : (t.textOnly s).length ≤ 1 := by
  rw [textOnly]
  split
  · exact Nat.zero_le 1
  · exact le_refl 1

namespace Retexted

variable (h : Retexted t u id s)

include h

theorem contains (hd : t.contains d) : u.contains d :=
  contains_of_size_le (h.size ▸ Nat.le_add_right _ _) hd

theorem children_self : u.children id = t.textOnly s := by
  rw [h.children, Function.update_self]

theorem children_of_ne (hp : p ≠ id) : u.children p = t.children p := by
  rw [h.children, Function.update_of_ne hp]

theorem list_eq (hn : d ∉ t.children id) (hp : d ∈ t.children p) :
    u.children p = t.children p := by
  apply h.children_of_ne
  rintro rfl
  exact hn hp

theorem textContent : u.textContent id = s := by
  rw [Tree.textContent, h.children_self, textOnly]
  split
  · next hs =>
    rw [String.isEmpty_iff.mp hs]
    rfl
  · next hs =>
    obtain ⟨n, hn, hcontent⟩ := Option.map_eq_some_iff.mp (h.new hs)
    have htext : (u.get? ⟨t.size⟩).bind Node.text? = some s := by
      rw [hn, Option.bind_some, Node.text?, hcontent]
    simp only [List.filterMap_cons, htext, List.filterMap_nil, String.intercalate_singleton]

variable (ht : t.Forest t.children)

include ht

theorem under_iff (hd : t.contains d) : u.Under d p ↔ p ≠ id ∧ t.Under d p := by
  rw [Under, Under, ← h.forest.linked.mem_iff, ← ht.linked.mem_iff]
  by_cases hp : p = id
  · rw [hp, h.children_self]
    exact ⟨fun hm => absurd hm (not_mem_textOnly hd), fun hm => absurd rfl hm.1⟩
  · rw [h.children_of_ne hp]
    exact (and_iff_right hp).symm

theorem parent?_of_mem (hc : c ∈ t.children id) : u.parent? c = none := by
  rw [Option.eq_none_iff_forall_ne_some]
  intro p hp
  obtain ⟨hne, hp⟩ := (h.under_iff ht (ht.linked.contains_of_mem hc)).mp hp
  exact hne (ht.linked.parent_unique (ht.linked.mem_iff.mpr hp) hc)

theorem parent?_of_not_mem (hd : t.contains d) (hn : d ∉ t.children id) :
    u.parent? d = t.parent? d := by
  ext p
  have hp : t.Under d p → p ≠ id := by
    rintro hp rfl
    exact hn (ht.linked.mem_iff.mpr hp)
  exact (h.under_iff ht hd).trans (and_iff_right_of_imp hp)

theorem above (hd : t.contains d) (hc : ReflTransGen u.Under d c) : ReflTransGen t.Under d c := by
  induction hc using ReflTransGen.head_induction_on with
  | refl => exact .refl
  | head hu _ ih =>
    have hu := ((h.under_iff ht hd).mp hu).2
    exact .head hu (ih (ht.linked.contains_parent hu))

theorem not_above (hid : t.contains id) (hc : c ∈ t.children id) :
    ¬ ReflTransGen u.Under id c := fun hup =>
  (ht.not_above_of_mem hc).2 (h.above ht hid hup)

theorem ne_of_above (hc : c ∈ t.children id) (hd : ReflTransGen t.Under d c) : d ≠ id := by
  rintro rfl
  exact (ht.not_above_of_mem hc).2 hd

theorem below_iff (hid : t.contains id) (hc : c ∈ t.children id) :
    ReflTransGen u.Under d c ↔ ReflTransGen t.Under d c := by
  constructor
  · intro hd
    by_cases hdt : t.contains d
    · exact h.above ht hdt hd
    -- A new node stands under `id`, so it is not below `c`.
    · rcases ReflTransGen.cases_head hd with rfl | ⟨q, hu, hq⟩
      · exact absurd (ht.linked.contains_of_mem hc) hdt
      · have hm : d ∈ u.children q := h.forest.linked.mem_iff.mpr hu
        have hqid : q = id := by
          by_contra hne
          rw [h.children_of_ne hne] at hm
          exact hdt (ht.linked.contains_of_mem hm)
        rw [hqid] at hq
        exact absurd hq (h.not_above ht hid hc)
  · intro hd
    induction hd using ReflTransGen.head_induction_on with
    | refl => exact .refl
    | head hu hq ih =>
      have hu' := (h.under_iff ht (contains_of_parent? hu)).mpr ⟨h.ne_of_above ht hc hq, hu⟩
      exact .head hu' ih

theorem get?_eq (hd : t.contains d) (hne : d ≠ id) (hn : d ∉ t.children id) :
    u.get? d = t.get? d :=
  ht.linked.get?_eq h.forest.linked (h.content? hd) (h.parent?_of_not_mem ht hd hn)
    (h.children_of_ne hne) fun _ => h.list_eq hn

theorem get?_self (hid : t.contains id) : u.get? id = (t.get? id).map fun n =>
    { n with firstChild := firstOf (t.textOnly s), lastChild := lastOf (t.textOnly s) } := by
  have hn : id ∉ t.children id := fun hm => (ht.not_above_of_mem hm).2 .refl
  rw [← h.children_self]
  exact ht.linked.get?_eq_map h.forest.linked (h.content? hid) (h.parent?_of_not_mem ht hid hn)
    fun _ => h.list_eq hn

theorem get?_of_mem (hc : c ∈ t.children id) : u.get? c = (t.get? c).map stripped := by
  have hcontent := h.content? (ht.linked.contains_of_mem hc)
  have hkids : u.children c = t.children c := h.children_of_ne (h.ne_of_above ht hc .refl)
  rcases get?_of_content?_eq hcontent with ⟨hu, hn⟩ | ⟨n, m, hn, hm, hnm⟩
  · rw [hu, hn, Option.map_none]
  · rw [hn, hm, Option.map_some, h.forest.linked.eq_of_loose hn (h.parent?_of_mem ht hc), hkids,
      hnm, ← ht.linked.firstChild_eq hm, ← ht.linked.lastChild_eq hm]
    rfl

theorem get?_new (hid : t.contains id) (hs : ¬ s.isEmpty) :
    u.get? ⟨t.size⟩ = some { parent := id, content := .text s } := by
  obtain ⟨n, hn, hcontent⟩ := Option.map_eq_some_iff.mp (h.new hs)
  have hself : u.children id = [] ++ ⟨t.size⟩ :: [] := by
    rw [h.children_self, textOnly, if_neg hs, List.nil_append]
  have hleaf : u.children ⟨t.size⟩ = [] := by
    rw [h.children_of_ne (ne_of_contains hid not_contains_fresh).symm,
      ht.linked.kids_of_not_contains not_contains_fresh]
  rw [hn, h.forest.linked.eq_of_mem hn hself, hleaf, hcontent]
  rfl

theorem released (hid : t.contains id) (hc : c ∈ t.children id) : Released t u id c := by
  have hcu : u.contains c := h.contains (ht.linked.contains_of_mem hc)
  have hunlisted : ∀ q, c ∉ u.children q := by
    intro q hq
    rw [h.forest.linked.mem_iff, h.parent?_of_mem ht hc] at hq
    cases hq
  constructor
  case node => exact h.get?_of_mem ht hc
  case unlisted => exact hunlisted
  case below_iff => exact fun d => h.below_iff ht hid hc
  case below =>
    intro d hd
    obtain ⟨q, hu, hq⟩ := TransGen.head'_iff.mp hd
    apply h.get?_eq ht (contains_of_parent? hu) (h.ne_of_above ht hc hd.to_reflTransGen)
    intro hm
    exact h.ne_of_above ht hc hq (ht.linked.parent_unique (ht.linked.mem_iff.mpr hu) hm)
  case insertable =>
    intro p reference hp hno hr
    have hroot : c ≠ .root := (ht.not_above_of_mem hc).1
    have hi : u.Insertable p c reference := ⟨hp, hcu, hroot, hno, fun r he =>
      ⟨h.forest.linked.contains_of_mem (hr r he), hr r he⟩⟩
    have hne : reference ≠ some c := fun he => hunlisted p (hr c he)
    obtain ⟨v, hv⟩ := (h.forest.inserts p c reference).succeeds_iff.mpr hi
    exact ⟨v, hv, (h.forest.inserts p c reference).moved v hne hv⟩
  case not_above => exact h.not_above ht hid hc

theorem replaced (hid : t.contains id) : Replaced t u id s where
  children := h.children_self
  new := fun hs => ⟨(t.contains_eq_false_iff _).mp not_contains_fresh, h.get?_new ht hid hs⟩
  textContent := h.textContent
  released := fun _ hc => h.released ht hid hc
  children_of_ne := fun _ hq => h.children_of_ne hq
  node := h.get?_self ht hid
  others := fun _ hd hne hn => h.get?_eq ht hd hne hn
  size := h.size

end Retexted

/-- Whatever was done to an empty tree before, a text that is set in a node stands there alone, and
whatever is done afterwards, setting it again gives the same text. -/
theorem replaced_of_run (edits : List Edit) (hs : (Tree.empty.run edits).size < 2 ^ 32 - 2)
    (id : NodeId) (hid : (Tree.empty.run edits).contains id) (s : String) :
    ∃ u, (Tree.empty.run edits).setText id s = (u, .ok ()) ∧
      Replaced (Tree.empty.run edits) u id s ∧ u.size < 2 ^ 32 - 1 ∧
      ∀ later, (u.run later).size < 2 ^ 32 - 1 →
        ∃ v, (u.run later).setText id s = (v, .ok ()) ∧ v.textContent id = u.textContent id := by
  have habsent : NodeId.absent.index = 2 ^ 32 - 1 := rfl
  have hf := forest_of_run edits (by omega)
  obtain ⟨u, hu, hr⟩ := hf.retexted hid (by omega) s
  have hru := hr.replaced hf hid
  have hlt : u.size < 2 ^ 32 - 1 := by
    have hsize := hr.size
    have hlen := length_textOnly_le (Tree.empty.run edits) s
    omega
  refine ⟨u, hu, hru, hlt, fun later hs' => ?_⟩
  have hchanges := u.changes_run later
  have hf' := forest_of_changes hchanges hr.forest hs'.le
  have hid' : (u.run later).contains id :=
    contains_of_size_le (size_le_of_changes hchanges) (hr.contains hid)
  obtain ⟨v, hv, hr'⟩ := hf'.retexted hid' hs' s
  exact ⟨v, hv, hr'.textContent.trans hr.textContent.symm⟩

/-- A text in place of three items, the second of which has something in it and goes back. -/
theorem replaced_of_run_nestedEdits :
    (Tree.empty.run nestedEdits).size < 2 ^ 32 - 2 ∧ (Tree.empty.run nestedEdits).contains ⟨1⟩ ∧
      ∃ u, (Tree.empty.run nestedEdits).setText ⟨1⟩ "b" = (u, .ok ()) ∧
        u.children ⟨1⟩ = [⟨6⟩] ∧ u.textContent ⟨1⟩ = "b" ∧
        Released (Tree.empty.run nestedEdits) u ⟨1⟩ ⟨3⟩ ∧ u.children ⟨3⟩ = [⟨5⟩] ∧
        ∃ v, u.insertBefore ⟨1⟩ ⟨3⟩ (some ⟨6⟩) = .ok v := by
  have hs : (Tree.empty.run nestedEdits).size < 2 ^ 32 - 2 := by decide +kernel
  have hid : (Tree.empty.run nestedEdits).contains ⟨1⟩ := by decide +kernel
  obtain ⟨u, hu, hr, -⟩ := replaced_of_run nestedEdits hs ⟨1⟩ hid "b"
  have hreleased := hr.released ⟨3⟩ (by decide +kernel)
  have htext : u.children ⟨1⟩ = [⟨6⟩] := hr.children.trans (by decide +kernel)
  have hkept : u.children ⟨3⟩ = [⟨5⟩] :=
    (hr.children_of_ne ⟨3⟩ (by decide)).trans (by decide +kernel)
  have hid' : u.contains ⟨1⟩ := contains_of_size_le (hr.size ▸ Nat.le_add_right _ _) hid
  have hr' : ∀ r, some ⟨6⟩ = some r → r ∈ u.children ⟨1⟩ := by
    rintro r ⟨⟩
    rw [htext]
    exact List.mem_singleton_self _
  obtain ⟨v, hv, -⟩ := hreleased.insertable ⟨1⟩ (some ⟨6⟩) hid' hreleased.not_above hr'
  exact ⟨hs, hid, u, hu, htext, hr.textContent, hreleased, hkept, v, hv⟩

end HeadAudit.Live.Tree
