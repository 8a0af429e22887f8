import HeadAudit.Proofs.Parity.Roots
import HeadAudit.Proofs.Selector.Tests

namespace HeadAudit.Check.Head

open List

variable {ν : Type} {a : Adapter ν} {ctx : Context} {head node child x : ν} {fuel : Nat}

section Walk

/-- Where a walk goes on from a node. Templates are not looked into. -/
def inner (a : Adapter ν) (node : ν) : List ν :=
  if a.tagName node = "template" then [] else a.children node

def walk (a : Adapter ν) (node : ν) : List ν := preorder (inner a) (a.height + 1) node

theorem inner_subset (a : Adapter ν) (node : ν) : inner a node ⊆ a.children node := by
  rw [inner]
  split
  · exact nil_subset _
  · exact Subset.refl _

theorem below_of_reaches (h : Reaches (inner a) node x) : Below a node x :=
  below_iff_reaches.mpr (Relation.ReflTransGen.mono (fun p _ hc => inner_subset a p hc) _ _ h)

theorem mem_walk_iff (h : a.IsFinite node) : x ∈ walk a node ↔ Reaches (inner a) node x := by
  obtain ⟨rank, hnode, hr⟩ := h
  refine mem_preorder (fun p hp c hc => ?_) (Nat.lt_succ_of_le hnode)
  exact hr (below_of_reaches hp) (inner_subset a p hc)

theorem walk_eq (h : a.IsFinite node) : walk a node = node :: (inner a node).flatMap (walk a) := by
  obtain ⟨rank, hnode, hr⟩ := h
  rw [walk, preorder]
  congr 1
  apply flatMap_congr
  intro c hc
  have hlt := hr .head (inner_subset a node hc)
  refine preorder_eq (fun p hp d hd => ?_) (hlt.trans_le hnode) (by omega)
  exact hr ((Below.head.child (inner_subset a node hc)).trans (below_of_reaches hp))
    (inner_subset a p hd)

theorem length_preorder_le (fuel : Nat) (node : ν) :
    (preorder (inner a) fuel node).length ≤ sizeBelow a fuel node + 1 := by
  induction fuel generalizing node with
  | zero => exact Nat.zero_le _
  | succ fuel ih =>
    rw [preorder, length_cons, sizeBelow, length_flatMap, Nat.add_le_add_iff_right, inner,
      ← sum_eq_foldr]
    split
    · exact Nat.zero_le _
    · exact sum_le_sum fun c _ => ih c

end Walk

section Stack

def illegalTags (a : Adapter ν) (nodes : List ν) : List String :=
  (nodes.filter fun x => a.tagName x ∉ legalTags).map a.tagName

theorem illegalTags_cons (x : ν) (nodes : List ν) :
    illegalTags a (x :: nodes) =
      (if isLegal a x then [] else [a.tagName x]) ++ illegalTags a nodes := by
  rw [illegalTags, filter_cons, isLegal]
  by_cases h : a.tagName x ∈ legalTags <;> simp [h, illegalTags]

theorem push_eq (stack nodes : List ν) : push stack nodes = nodes.reverse ++ stack := by
  rw [push, foldl_flip_cons_eq_append, map_id']

theorem illegalOn_cons (fuel : Nat) (node : ν) (stack : List ν) :
    illegalOn a (fuel + 1) (node :: stack) =
      (if isLegal a node then [] else [a.tagName node]) ++
        illegalOn a fuel (inner a node ++ stack) := by
  rw [illegalOn, inner, push_eq, reverse_reverse]
  by_cases h : a.tagName node = "template"
  · have hlegal : isLegal a node := by
      rw [isLegal, h]
      decide
    rw [if_pos (beq_iff_eq.mpr h), if_pos hlegal, if_pos h]
    rfl
  · rw [if_neg (by rwa [beq_iff_eq]), if_neg h]

/-- A stack with fuel for all that is to be met is worked off one walk after the other. -/
theorem illegalOn_eq {stack : List ν} (h : ∀ x ∈ stack, a.IsFinite x)
    (hf : (stack.flatMap (walk a)).length ≤ fuel) :
    illegalOn a fuel stack = illegalTags a (stack.flatMap (walk a)) := by
  induction fuel generalizing stack with
  | zero =>
    rw [length_eq_zero_iff.mp (Nat.le_zero.mp hf)]
    cases stack <;> rfl
  | succ fuel ih =>
    cases stack with
    | nil => rfl
    | cons node stack =>
      obtain ⟨hnode, hstack⟩ := forall_mem_cons.mp h
      rw [flatMap_cons, walk_eq hnode, cons_append, ← flatMap_append] at hf ⊢
      have hnext : ∀ x ∈ inner a node ++ stack, a.IsFinite x := by
        rw [forall_mem_append]
        exact ⟨fun c hc => hnode.of_mem (inner_subset a node hc), hstack⟩
      rw [illegalOn_cons, illegalTags_cons, ih hnext (Nat.le_of_succ_le_succ hf)]

/-- The size of a node is fuel for the walks from all its children. -/
theorem illegalBelow_eq (h : a.IsFinite node) : illegalBelow a (a.height + 1) node =
    illegalTags a ((inner a node).flatMap (walk a)) := by
  rw [illegalBelow, push_eq, reverse_reverse, append_nil]
  by_cases htemplate : a.tagName node = "template"
  · rw [if_pos (beq_iff_eq.mpr htemplate), inner, if_pos htemplate]
    rfl
  · have hinner : inner a node = a.children node := if_neg htemplate
    have hsize := length_preorder_le (a := a) (a.height + 1) node
    rw [← walk, walk_eq h, hinner, length_cons] at hsize
    rw [if_neg (by rwa [beq_iff_eq]), hinner]
    exact illegalOn_eq (fun _ => h.of_mem) (Nat.le_of_succ_le_succ hsize)

theorem placementWarnings_eq (h : a.IsFinite node) :
    placementWarnings a node = (illegalTags a (walk a node)).map (illegal node) := by
  rw [placementWarnings, illegalBelow_eq h, walk_eq h, illegalTags_cons, map_append]
  split <;> rfl

end Stack

section Survey

def warnIf (reason : Prop) [Decidable reason] (message : String) (elements : List ν) :
    List (Warning ν) :=
  if reason then [⟨message, elements⟩] else []

theorem warnIf_eq_nil_iff {reason : Prop} [Decidable reason] {message : String}
    {elements : List ν} : warnIf reason message elements = [] ↔ ¬ reason := by
  rw [warnIf]
  split
  · next h => exact iff_of_false (cons_ne_nil _ _) (not_not_intro h)
  · next h => exact iff_of_true rfl h

def titles (a : Adapter ν) (head : ν) : List ν := (a.children head).filter (a.tagged "title")

def viewports (a : Adapter ν) (head : ν) : List ν :=
  (a.children head).filter fun x => a.tagged "meta" x && a.reads "name" "viewport" x

def bases (a : Adapter ν) (head : ν) : List ν := (a.children head).filter (a.tagged "base")

def policies (a : Adapter ν) (head : ν) : List ν :=
  (a.children head).filter fun x => a.tagged "meta" x &&
    ["content-security-policy", "content-security-policy-report-only"].any
      (a.reads "http-equiv" · x)

def trials (a : Adapter ν) (head : ν) : List ν :=
  (a.children head).filter fun x => a.tagged "meta" x && a.reads "http-equiv" "origin-trial" x

def faults (a : Adapter ν) (ctx : Context) (x : ν) : List String :=
  TrialToken.complaints ctx (TrialToken.token a x)

theorem faults_eq_nil_iff : faults a ctx x = [] ↔
    ∃ payload, Trial.decode (TrialToken.token a x) = .ok payload ∧
      Trial.problems payload ctx = [] := by
  rw [faults, TrialToken.complaints]
  cases Trial.decode (TrialToken.token a x) with
  | ok payload => simp
  | error fault => simp

/-- What there is to say about a head: of its children as a whole, of the elements in each of them
that have no place in a head, and of each trial token. -/
def survey (a : Adapter ν) (ctx : Context) (head : ν) : List (Warning ν) :=
  warnIf ((titles a head).length ≠ 1)
      s!"Expected exactly 1 title, found {(titles a head).length}" (titles a head) ++
    warnIf ((viewports a head).length ≠ 1)
      s!"Expected exactly 1 viewport meta, found {(viewports a head).length}" (viewports a head) ++
    warnIf (1 < (bases a head).length)
      s!"Expected at most 1 base, found {(bases a head).length}" (bases a head) ++
    warnIf (policies a head ≠ [])
      ("CSP meta tags disable the preload scanner due to a bug in Chrome. Use the CSP header " ++
        "instead. Learn more: https://crbug.com/1458493") (policies a head) ++
    (a.children head).flatMap (fun child =>
      ((walk a child).filter fun x => a.tagName x ∉ legalTags).map fun x =>
        ⟨s!"<{a.tagName x}> elements are not allowed in the <head>", [child]⟩) ++
    (trials a head).flatMap fun x =>
      warnIf (faults a ctx x ≠ [])
        ("Invalid origin trial token: " ++ ", ".intercalate (faults a ctx x)) [x]

theorem titleWarnings_eq (xs : List ν) : titleWarnings xs =
    warnIf (xs.length ≠ 1) s!"Expected exactly 1 title, found {xs.length}" xs :=
  (ite_not _ _ _).symm

theorem viewportWarnings_eq (xs : List ν) : viewportWarnings xs =
    warnIf (xs.length ≠ 1) s!"Expected exactly 1 viewport meta, found {xs.length}" xs :=
  (ite_not _ _ _).symm

theorem policyWarnings_eq (xs : List ν) : policyWarnings xs = warnIf (xs ≠ [])
    ("CSP meta tags disable the preload scanner due to a bug in Chrome. Use the CSP header " ++
      "instead. Learn more: https://crbug.com/1458493") xs := by
  cases xs <;> rfl

theorem trialWarnings_eq (x : ν) : trialWarnings a ctx x = warnIf (faults a ctx x ≠ [])
    ("Invalid origin trial token: " ++ ", ".intercalate (faults a ctx x)) [x] := by
  rw [trialWarnings, ← faults]
  cases faults a ctx x <;> rfl

theorem check_eq_survey (h : a.IsFinite head) : check a ctx head = survey a ctx head := by
  have htitles : (a.children head).filter (Rule.isTitle a) = titles a head :=
    filter_congr fun x _ => Rule.isTitle_eq a x
  have hviewports : (a.children head).filter (Viewport.isViewport a) = viewports a head :=
    filter_congr fun x _ => isViewport_eq a x
  have hbases : (a.children head).filter (fun x => a.selects x "base") = bases a head :=
    filter_congr fun x _ => selects_base a x
  have hpolicies : (a.children head).filter (Rule.isContentPolicy a) = policies a head :=
    filter_congr fun x _ => Rule.isContentPolicy_eq a x
  have htrials : (a.children head).filter (Rule.isOriginTrial a) = trials a head :=
    filter_congr fun x _ => Rule.isOriginTrial_eq a x
  have hplaces : ∀ child ∈ a.children head, placementWarnings a child =
      ((walk a child).filter fun x => a.tagName x ∉ legalTags).map fun x =>
        illegal child (a.tagName x) := by
    intro child hc
    rw [placementWarnings_eq (h.of_mem hc), illegalTags, map_map]
    rfl
  rw [check, htitles, hviewports, hbases, hpolicies, htrials, flatMap_congr hplaces,
    titleWarnings_eq, viewportWarnings_eq, policyWarnings_eq,
    flatMap_congr fun x _ => trialWarnings_eq x]
  rfl

/-- A head that nothing is to be said about. -/
@[mk_iff]
structure Flawless (a : Adapter ν) (ctx : Context) (head : ν) : Prop where
  title : (titles a head).length = 1
  viewport : (viewports a head).length = 1
  base : (bases a head).length ≤ 1
  policy : policies a head = []
  legal : ∀ child ∈ a.children head, ∀ x, Reaches (inner a) child x → a.tagName x ∈ legalTags
  token : ∀ x ∈ trials a head, ∃ payload,
    Trial.decode (TrialToken.token a x) = .ok payload ∧ Trial.problems payload ctx = []

theorem survey_eq_nil_iff (h : a.IsFinite head) :
    survey a ctx head = [] ↔ Flawless a ctx head := by
  have hlegal : (∀ child ∈ a.children head, ∀ x ∈ walk a child, a.tagName x ∈ legalTags) ↔
      ∀ child ∈ a.children head, ∀ x, Reaches (inner a) child x → a.tagName x ∈ legalTags :=
    forall₂_congr fun child hc => forall_congr' fun x => by
      rw [mem_walk_iff (h.of_mem hc)]
  simp only [survey, append_eq_nil_iff, flatMap_eq_nil_iff, map_eq_nil_iff, filter_eq_nil_iff,
    warnIf_eq_nil_iff, not_not, not_lt, decide_eq_true_iff, hlegal, faults_eq_nil_iff,
    flawless_iff, and_assoc]

/-- What the check of a head says, and what the walks are that it speaks of. -/
structure Surveys (a : Adapter ν) (ctx : Context) (head : ν) : Prop where
  walk_eq : ∀ {x}, Below a head x → walk a x =
    x :: (if a.tagName x = "template" then [] else a.children x).flatMap (walk a)
  mem_walk_iff : ∀ {x y}, Below a head x → (y ∈ walk a x ↔ Reaches (inner a) x y)
  check_eq : check a ctx head = survey a ctx head
  check_eq_nil_iff : check a ctx head = [] ↔ Flawless a ctx head

/-- Every head of a finite tree is checked by the letter. -/
theorem surveys (h : a.IsFinite head) (ctx : Context) : Surveys a ctx head where
  walk_eq := fun hx => walk_eq (h.of_below hx)
  mem_walk_iff := fun hx => mem_walk_iff (h.of_below hx)
  check_eq := check_eq_survey h
  check_eq_nil_iff := by rw [check_eq_survey h, survey_eq_nil_iff h]

def crowded : Markup.Document :=
  ⟨[.element "head" []
    [.element "noscript" []
        [.element "div" [] [.element "template" [] [.element "img" [] [] []] [],
            .element "p" [] [] []] [],
          .element "b" [] [] []] [],
      .element "template" [] [.element "img" [] [] []] [],
      .element "span" [] [.element "title" [] [.text "A"] []] [],
      .element "meta" [("http-equiv", "origin-trial"), ("content", "AAAA")] [] []] []]⟩

theorem surveys_crowded :
    (crowded.adapter none).IsFinite [.child 0] ∧
      Surveys (crowded.adapter none) { now := 0 } [.child 0] ∧
      check (crowded.adapter none) { now := 0 } [.child 0] =
        [⟨"Expected exactly 1 title, found 0", []⟩,
          ⟨"Expected exactly 1 viewport meta, found 0", []⟩,
          ⟨"<div> elements are not allowed in the <head>", [[.child 0, .child 0]]⟩,
          ⟨"<p> elements are not allowed in the <head>", [[.child 0, .child 0]]⟩,
          ⟨"<b> elements are not allowed in the <head>", [[.child 0, .child 0]]⟩,
          ⟨"<span> elements are not allowed in the <head>", [[.child 2, .child 0]]⟩,
          ⟨"Invalid origin trial token: invalid token", [[.child 3, .child 0]]⟩] :=
  have h : (crowded.adapter none).IsFinite [.child 0] := crowded.isFinite none _
  ⟨h, surveys h _, by decide +kernel⟩

end Survey

end HeadAudit.Check.Head
