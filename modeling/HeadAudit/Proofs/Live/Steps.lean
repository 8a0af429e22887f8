import HeadAudit.Live.Steps
import HeadAudit.Proofs.Live.Moves
import HeadAudit.Proofs.Steps

namespace HeadAudit.Live.Tree

open EStateM

variable {t : Tree} {p c id : NodeId} {reference : Option NodeId} {n : Node} {f : Node → Node}

theorem allowed_of_insertError? (h : t.insertError? p c reference = none) :
    t.contains p ∧ t.contains c ∧ t.isInclusiveAncestor c p = false ∧
      ∀ r, reference = some r → t.contains r := by
  unfold insertError? at h
  by_cases hp : t.contains p
  case neg => simp [hp] at h
  by_cases hc : t.contains c
  case neg => simp [hp, hc] at h
  by_cases hroot : c = .root
  case pos =>
    subst hroot
    simp [hp, hc] at h
  by_cases ha : t.isInclusiveAncestor c p
  case pos => simp [hp, hc, ha] at h
  refine ⟨hp, hc, Bool.eq_false_iff.mpr ha, ?_⟩
  rintro r rfl
  by_cases hr : t.contains r
  case pos => exact hr
  have hn : t.get? r = none := by rwa [Bool.not_eq_true, contains_eq_false_iff] at hr
  simp [hp, hc, hroot, ha, hn] at h

namespace Steps

theorem run_node (h : t.get? id = some n) : (node id).run t = .ok n t := by
  simp only [node, run_bind, run_get, h, run_pure]

theorem run_node_of_none (h : t.get? id = none) :
    (node id).run t = .error (.notFound id) t := by
  simp only [node, run_bind, run_get, h]
  rfl

theorem run_modifyNode (h : t.contains id) :
    (modifyNode id f).run t = .ok () (t.update id f) := by
  obtain ⟨n, hn⟩ := (t.contains_iff id).mp h
  rw [modifyNode, run_bind_of_ok (run_node hn), run_modify]

/-- The checks in front of an insertion only look. -/
theorem run_checkInsert : (checkInsert p c reference).run t =
    match t.insertError? p c reference with
    | none => .ok () t
    | some e => .error e t := by
  unfold checkInsert insertError? contains
  cases hp : t.get? p with
  | none => exact run_bind_of_error (run_node_of_none hp)
  | some np =>
    rw [run_bind_of_ok (run_node hp)]
    cases hc : t.get? c with
    | none => exact run_bind_of_error (run_node_of_none hc)
    | some nc =>
      rw [run_bind_of_ok (run_node hc), run_bind_of_ok (run_get t)]
      cases ha : (decide (c = .root) || t.isInclusiveAncestor c p) with
      | true => exact run_bind_of_error (run_refuseIf_of_true rfl)
      | false =>
        rw [run_bind_of_ok (run_refuseIf_of_false rfl)]
        cases reference with
        | none => rfl
        | some r =>
          dsimp only
          cases hr : t.get? r with
          | none => exact run_bind_of_error (run_node_of_none hr)
          | some n =>
            rw [run_bind_of_ok (run_node hr)]
            by_cases hn : n.parent = p
            · rw [run_refuseIf_of_false (by simp [hn])]
              simp [hn]
            · rw [run_refuseIf_of_true (by simp [hn])]
              simp [hn]

theorem run_checkInsert_of_error {e : EditError} (h : t.insertError? p c reference = some e) :
    (checkInsert p c reference).run t = .error e t := by
  rw [run_checkInsert, h]

theorem run_checkInsert_of_allowed (h : t.insertError? p c reference = none) :
    (checkInsert p c reference).run t = .ok () t := by
  rw [run_checkInsert, h]

theorem run_modifyOr {other : NodeId} {g : Node → Node} (h : t.contains other) :
    (modifyOr id f other g).run t =
      .ok () (if t.contains id then t.update id f else t.update other g) := by
  rw [modifyOr, run_bind_of_ok (run_get t)]
  split
  · rfl
  · exact run_modifyNode h

theorem run_linkBetween (hp : t.contains p) (hc : t.contains c) (previous next : NodeId) :
    (linkBetween p c previous next).run t = .ok ()
      (let t := t.update c fun node => { node with parent := p, previous, next }
       let t := if t.contains previous then t.update previous ({ · with next := c })
         else t.update p ({ · with firstChild := c })
       if t.contains next then t.update next ({ · with previous := c })
       else t.update p ({ · with lastChild := c })) := by
  rw [linkBetween, run_bind_of_ok (run_modifyNode hc),
    run_bind_of_ok (run_modifyOr (by rwa [contains_update])), run_modifyOr]
  split <;> rwa [contains_update, contains_update]

/-- All nodes that are linked are there, so that nothing is refused half way. -/
theorem run_link (hp : t.contains p) (hc : t.contains c)
    (hr : ∀ r, reference = some r → t.contains r) :
    (link p c reference).run t = .ok () (t.attach p c reference) := by
  cases reference with
  | none =>
    obtain ⟨n, hn⟩ := (t.contains_iff p).mp hp
    have hplace : (place p none).run t = .ok (n.lastChild, .absent) t :=
      run_bind_of_ok (run_node hn)
    rw [link, run_bind_of_ok hplace, run_linkBetween hp hc, attach, hn]
    rfl
  | some r =>
    obtain ⟨n, hn⟩ := (t.contains_iff r).mp (hr r rfl)
    have hplace : (place p (some r)).run t = .ok (n.previous, r) t := run_bind_of_ok (run_node hn)
    rw [link, run_bind_of_ok hplace, run_linkBetween hp hc, attach, hn]
    rfl

/-- An insertion is made as a whole or not at all. -/
theorem run_insertBefore : (insertBefore p c reference).run t =
    settled t ((t.insertBefore p c reference).map (·, ())) := by
  rw [insertBefore, Tree.insertBefore]
  cases h : t.insertError? p c reference with
  | some e => exact run_bind_of_error (run_checkInsert_of_error h)
  | none =>
    obtain ⟨hp, hc, -, hr⟩ := allowed_of_insertError? h
    rw [run_bind_of_ok (run_checkInsert_of_allowed h)]
    by_cases hself : reference = some c
    · rw [if_neg (not_not_intro hself), if_pos hself]
      rfl
    · have hdetach : (detach c).run t = .ok () (t.detach c) := rfl
      rw [if_pos hself, if_neg hself, run_bind_of_ok hdetach]
      refine run_link ?_ ?_ fun r h => ?_
      · rwa [contains_detach]
      · rwa [contains_detach]
      · rw [contains_detach]
        exact hr r h

theorem run_appendChild : (appendChild p c).run t =
    settled t ((t.appendChild p c).map (·, ())) := run_insertBefore

theorem run_removeChild : (removeChild p c).run t =
    settled t ((t.removeChild p c).map (·, ())) := by
  rw [removeChild, Tree.removeChild]
  cases hc : t.get? c with
  | none => exact run_bind_of_error (run_node_of_none hc)
  | some n =>
    rw [run_bind_of_ok (run_node hc)]
    by_cases hp : n.parent = p
    · rw [run_bind_of_ok (run_refuseIf_of_false (by simp [hp]))]
      dsimp only
      rw [if_pos hp]
      rfl
    · rw [run_bind_of_error (run_refuseIf_of_true (by simp [hp]))]
      dsimp only
      rw [if_neg hp]
      rfl

theorem run_updateAttrs {g : Attributes → Attributes} : (updateAttrs id g).run t =
    settled t ((t.updateAttrs id g).map (·, ((t.get? id).map Node.attrs).getD [])) := by
  rw [updateAttrs, Tree.updateAttrs]
  cases h : t.get? id with
  | none => exact run_bind_of_error (run_node_of_none h)
  | some n =>
    rw [run_bind_of_ok (run_node h)]
    dsimp only
    cases hn : n.content with
    | element tag attrs => simp [Node.attrs, hn, settled, Except.map]
    | _ => rfl

theorem run_setAttribute {name value : String} : (setAttribute id name value).run t =
    settled t ((t.setAttribute id name value).map (·, ())) := by
  rw [setAttribute, run_bind, run_updateAttrs, Tree.setAttribute]
  cases t.updateAttrs id (Attributes.set name value) <;> rfl

theorem run_removeAttribute {name : String} : (removeAttribute id name).run t =
    settled t (t.removeAttribute id name) := by
  rw [removeAttribute, run_bind, run_updateAttrs, Tree.removeAttribute]
  cases t.updateAttrs id (Attributes.erase name) with
  | error e => rfl
  | ok u => cases h : t.get? id <;> rfl

/-- A refused text is left in the tree, and the children that it was to replace are gone. -/
theorem run_setText {s : String} : (setText id s).run t =
    match t.setText id s with
    | (u, .ok ()) => .ok () u
    | (u, .error e) => .error e u := by
  have hbare : ∀ (ids : List NodeId) (t : Tree),
      (ids.forM detach : Steps PUnit).run t = .ok () (ids.foldl Tree.detach t) := by
    intro ids
    induction ids with
    | nil => exact fun t => rfl
    | cons c ids ih => exact fun t => ih (t.detach c)
  rw [setText, run_bind_of_ok (run_get t), run_bind_of_ok (hbare _ t), Tree.setText]
  have hcreate : ∀ t : Tree, (create (.text s)).run t = .ok ⟨t.size⟩ (t.createText s).1 :=
    fun t => rfl
  cases s.isEmpty with
  | true => rfl
  | false =>
    simp only [Bool.not_false, if_true, Bool.false_eq_true, if_false]
    rw [run_bind_of_ok (hcreate _), run_appendChild]
    generalize (t.children id).foldl Tree.detach t = bare
    change settled _ ((bare.createText s).1.appendChild id (bare.createText s).2 |>.map (·, ())) = _
    cases (bare.createText s).1.appendChild id (bare.createText s).2 <;> rfl

end Steps

end HeadAudit.Live.Tree
