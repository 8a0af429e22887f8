import Mathlib
import HeadAudit.Markup.Located

namespace HeadAudit.Markup

open List

namespace Node

theorem sizes_eq (ns : List Node) : sizes ns = (ns.map size).sum := by
  induction ns with
  | nil => rfl
  | cons n ns ih => rw [sizes, ih, map_cons, sum_cons]

theorem size_eq (n : Node) : n.size = sizes n.template + sizes n.children + 1 := by
  cases n with
  | element tag attrs children template =>
    rw [size, Nat.add_comm (sizes children)]
    rfl
  | _ => rfl

end Node

namespace Document

theorem elementsUnder_eq (step : Nat → Step) (outer : Place) (i : Nat) (ns : List Node) :
    elementsUnder step outer i ns =
      (ns.zipIdx i).flatMap fun (n, j) => elementsOf (step j :: outer) n := by
  induction ns generalizing i with
  | nil => rfl
  | cons n ns ih => rw [elementsUnder, ih, zipIdx_cons, flatMap_cons]

theorem elementsOf_eq (place : Place) (n : Node) : elementsOf place n =
    (n.tag?.map (place, ·)).toList ++
      (Located.inside place n).flatMap fun e => elementsOf e.1 e.2 := by
  cases n with
  | element tag attrs children template =>
    rw [elementsOf, elementsUnder_eq, elementsUnder_eq, Located.inside, flatMap_append,
      flatMap_map, flatMap_map]
    rfl
  | _ => rfl

mutual

theorem suffix_of_mem_elementsOf {place q : Place} {name : String} :
    (n : Node) → (q, name) ∈ elementsOf place n → place <:+ q
  | .element tag attrs children template, h => by
    rw [elementsOf, mem_cons, mem_append] at h
    rcases h with h | h | h
    · cases h
      exact suffix_refl _
    · obtain ⟨j, -, hj⟩ := suffix_of_mem_elementsUnder template h
      exact (suffix_cons _ _).trans hj
    · obtain ⟨j, -, hj⟩ := suffix_of_mem_elementsUnder children h
      exact (suffix_cons _ _).trans hj
  | .text _, h | .comment _, h | .doctype _, h => by cases h

theorem suffix_of_mem_elementsUnder {step : Nat → Step} {outer q : Place} {name : String}
    {i : Nat} : (ns : List Node) → (q, name) ∈ elementsUnder step outer i ns →
      ∃ j, i ≤ j ∧ step j :: outer <:+ q
  | [], h => by cases h
  | n :: ns, h => by
    rw [elementsUnder, mem_append] at h
    rcases h with h | h
    · exact ⟨i, le_rfl, suffix_of_mem_elementsOf n h⟩
    · obtain ⟨j, hij, hj⟩ := suffix_of_mem_elementsUnder ns h
      exact ⟨j, by omega, hj⟩

end

theorem step_unique {outer q : Place} {a b : Step} (ha : a :: outer <:+ q)
    (hb : b :: outer <:+ q) : a = b := by
  have he := (suffix_of_suffix_length_le ha hb le_rfl).eq_of_length rfl
  exact (cons.inj he).1

mutual

theorem pairwise_elementsOf (place : Place) :
    (n : Node) → (elementsOf place n).Pairwise fun e e' => e.1 ≠ e'.1
  | .element tag attrs children template => by
    rw [elementsOf, pairwise_cons, pairwise_append]
    refine ⟨?_, pairwise_elementsUnder (fun _ _ => Step.content.inj) place 0 template,
      pairwise_elementsUnder (fun _ _ => Step.child.inj) place 0 children, ?_⟩
    · rintro ⟨q, name⟩ hq rfl
      have hlen : ∃ s, s :: place <:+ place := by
        rcases mem_append.mp hq with hq | hq
        · obtain ⟨j, -, hj⟩ := suffix_of_mem_elementsUnder template hq
          exact ⟨_, hj⟩
        · obtain ⟨j, -, hj⟩ := suffix_of_mem_elementsUnder children hq
          exact ⟨_, hj⟩
      obtain ⟨s, hs⟩ := hlen
      exact absurd hs.length_le (Nat.not_succ_le_self _)
    · rintro ⟨q, name⟩ hq ⟨q', name'⟩ hq' rfl
      obtain ⟨j, -, hj⟩ := suffix_of_mem_elementsUnder template hq
      obtain ⟨k, -, hk⟩ := suffix_of_mem_elementsUnder children hq'
      exact absurd (step_unique hj hk) nofun
  | .text _ | .comment _ | .doctype _ => .nil

theorem pairwise_elementsUnder {step : Nat → Step} (hstep : Function.Injective step)
    (outer : Place) (i : Nat) : (ns : List Node) →
      (elementsUnder step outer i ns).Pairwise fun e e' => e.1 ≠ e'.1
  | [] => .nil
  | n :: ns => by
    rw [elementsUnder, pairwise_append]
    refine ⟨pairwise_elementsOf _ n, pairwise_elementsUnder hstep outer (i + 1) ns, ?_⟩
    rintro ⟨q, name⟩ hq ⟨q', name'⟩ hq' rfl
    have hi := suffix_of_mem_elementsOf n hq
    obtain ⟨j, hij, hj⟩ := suffix_of_mem_elementsUnder ns hq'
    have he := hstep (step_unique hi hj)
    omega

end

theorem nodup_places (d : Document) : (d.elements.map (·.1)).Nodup :=
  pairwise_map.mpr (pairwise_elementsUnder (fun _ _ => Step.child.inj) [] 0 d.nodes)

theorem elementsOf_subset_of_mem {place p : Place} {n m : Node}
    (h : (p, m) ∈ Located.inside place n) : elementsOf p m ⊆ elementsOf place n := by
  intro e he
  rw [elementsOf_eq place n, mem_append, mem_flatMap]
  exact .inr ⟨_, h, he⟩

theorem mem_inside {place : Place} {n m : Node} {step : Step} (h : n.step? step = some m) :
    (step :: place, m) ∈ Located.inside place n := by
  rw [Located.inside, mem_append]
  cases step with
  | child i => exact .inr (mem_map.mpr ⟨(m, i), mem_zipIdx_iff_getElem?.mpr h, rfl⟩)
  | content i => exact .inl (mem_map.mpr ⟨(m, i), mem_zipIdx_iff_getElem?.mpr h, rfl⟩)

theorem elementsOf_subset {d : Document} {place : Place} {n : Node} (h : d.get? place = some n) :
    elementsOf place n ⊆ d.elements := by
  induction place generalizing n with
  | nil => cases h
  | cons step outer ih =>
    have hinner (ho : (d.get? outer).bind (·.step? step) = some n) :
        elementsOf (step :: outer) n ⊆ d.elements := by
      obtain ⟨m, hm, hn⟩ := Option.bind_eq_some_iff.mp ho
      exact Subset.trans (elementsOf_subset_of_mem (mem_inside hn)) (ih hm)
    cases step with
    | content i => cases outer <;> exact hinner h
    | child i =>
      cases outer with
      | cons step' outer => exact hinner h
      | nil =>
        intro e he
        rw [elements, elementsUnder_eq, mem_flatMap]
        exact ⟨(n, i), mem_zipIdx_iff_getElem?.mpr h, he⟩

theorem mem_elements_of_get? {d : Document} {place : Place} {name : String}
    (h : (d.get? place).bind Node.tag? = some name) : (place, name) ∈ d.elements := by
  obtain ⟨n, hn, ht⟩ := Option.bind_eq_some_iff.mp h
  refine elementsOf_subset hn ?_
  rw [elementsOf_eq, ht]
  exact mem_cons_self

end Document

namespace Located

theorem sizes_zipIdx (step : Nat → Step) (place : Place) (ns : List Node) :
    ((ns.zipIdx.map fun (m, i) => (step i :: place, m)).map (·.2.size)).sum = Node.sizes ns := by
  rw [Node.sizes_eq, map_map]
  change (ns.zipIdx.map (Node.size ∘ Prod.fst)).sum = _
  rw [← map_map, zipIdx_map_fst]

theorem sizes_inside (place : Place) (n : Node) :
    ((inside place n).map (·.2.size)).sum + 1 = n.size := by
  rw [inside, map_append, sum_append, sizes_zipIdx, sizes_zipIdx, n.size_eq]

/-- A stack with fuel for all that is inside of its nodes is worked off one node after the other. -/
theorem visit_eq {fuel : Nat} {stack : List (Place × Node)}
    (hf : (stack.map (·.2.size)).sum ≤ fuel) :
    visit fuel stack = stack.flatMap fun e => Document.elementsOf e.1 e.2 := by
  induction fuel generalizing stack with
  | zero =>
    cases stack with
    | nil => rfl
    | cons e stack =>
      have hsize := e.2.size_eq
      rw [map_cons, sum_cons] at hf
      omega
  | succ fuel ih =>
    cases stack with
    | nil => rfl
    | cons e stack =>
      obtain ⟨place, n⟩ := e
      -- What comes on the stack for a node is smaller than the node by the one turn it takes.
      have hsize := sizes_inside place n
      rw [map_cons, sum_cons] at hf
      dsimp only at hf
      have hnext : ((inside place n ++ stack).map (·.2.size)).sum ≤ fuel := by
        rw [map_append, sum_append]
        omega
      rw [visit, ih hnext, flatMap_append, flatMap_cons, Document.elementsOf_eq, append_assoc]

theorem visited_eq (d : Document) : visited d = d.elements := by
  have hf := (sizes_zipIdx .child [] d.nodes).le
  rw [visited, visit_eq hf, Document.elements, Document.elementsUnder_eq, flatMap_map]

/-- Whatever the stack does, the elements are paired in the order of their start tags. -/
theorem table_eq (d : Document) (source : String) : table d source =
    (pair d.elements (StartTag.scan source)).map
      fun (place, tag) => (place, location source tag) := by
  rw [table, visited_eq]

end Located

end HeadAudit.Markup
