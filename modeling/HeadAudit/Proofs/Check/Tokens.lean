import Mathlib
import HeadAudit.Check.Element
import HeadAudit.Check.Head
import HeadAudit.Markup.View

namespace HeadAudit

open List

variable {ν : Type}

def tokenLead : String := "Invalid origin trial token: "

def Warning.isOfToken (w : Warning ν) : Bool := tokenLead.toList.isPrefixOf w.message.toList

theorem isOfToken_append (message : String) (elements : List ν) :
    Warning.isOfToken ⟨tokenLead ++ message, elements⟩ := by
  rw [Warning.isOfToken, String.toList_append, isPrefixOf_iff_prefix]
  exact prefix_append _ _

section Others

def Tokenless (ws : List (Warning ν)) : Prop := ∀ w ∈ ws, w.isOfToken = false

variable {ws ws' : List (Warning ν)}

theorem tokenless_nil : Tokenless ([] : List (Warning ν)) := fun _ h => absurd h not_mem_nil

theorem tokenless_singleton {w : Warning ν} (h : w.isOfToken = false) : Tokenless [w] :=
  forall_mem_singleton.mpr h

theorem tokenless_ite (p : Prop) [Decidable p] (h : Tokenless ws) (h' : Tokenless ws') :
    Tokenless (if p then ws else ws') := by
  split
  · exact h
  · exact h'

theorem Tokenless.filter_append (h : Tokenless ws) (more : List (Warning ν)) :
    (ws ++ more).filter (·.isOfToken) = more.filter (·.isOfToken) := by
  rw [List.filter_append, filter_eq_nil_iff.mpr, nil_append]
  intro w hw
  rw [h w hw]
  exact Bool.false_ne_true

theorem not_isOfToken {opening : String}
    (h : ∀ cs, tokenLead.toList.isPrefixOf (opening.toList ++ cs) = false) (rest : String)
    (xs : List ν) : Warning.isOfToken ⟨opening ++ rest, xs⟩ = false := by
  rw [Warning.isOfToken, String.toList_append]
  exact h rest.toList

theorem tokenless_titleWarnings (xs : List ν) : Tokenless (Check.Head.titleWarnings xs) :=
  tokenless_ite _ tokenless_nil (tokenless_singleton (not_isOfToken (fun _ => rfl) _ _))

theorem tokenless_viewportWarnings (xs : List ν) : Tokenless (Check.Head.viewportWarnings xs) :=
  tokenless_ite _ tokenless_nil (tokenless_singleton (not_isOfToken (fun _ => rfl) _ _))

theorem tokenless_baseWarnings (xs : List ν) : Tokenless (Check.Head.baseWarnings xs) :=
  tokenless_ite _ (tokenless_singleton (not_isOfToken (fun _ => rfl) _ _)) tokenless_nil

theorem tokenless_policyWarnings (xs : List ν) : Tokenless (Check.Head.policyWarnings xs) :=
  tokenless_ite _ tokenless_nil (tokenless_singleton (not_isOfToken (fun _ => rfl) _ _))

theorem isOfToken_illegal (child : ν) (tag : String) :
    (Check.Head.illegal child tag).isOfToken = false := by
  change Warning.isOfToken ⟨"<" ++ tag ++ "> elements are not allowed in the <head>", [child]⟩ = _
  rw [String.append_assoc]
  exact not_isOfToken (fun _ => rfl) _ _

theorem tokenless_placementWarnings (a : Adapter ν) (xs : List ν) :
    Tokenless (xs.flatMap (Check.Head.placementWarnings a)) := by
  intro w hw
  obtain ⟨x, -, hw⟩ := mem_flatMap.mp hw
  rw [Check.Head.placementWarnings, mem_append, mem_map] at hw
  rcases hw with hw | ⟨tag, -, rfl⟩
  · split at hw
    · cases hw
    · rw [mem_singleton.mp hw]
      exact isOfToken_illegal _ _
  · exact isOfToken_illegal _ _

end Others

variable [DecidableEq ν] {a : Adapter ν} {ctx : Context} {head c : ν}

theorem warnings_check (h : Rule.isOriginTrial a c) : (Check.Element.check a ctx c).warnings =
    Check.TrialToken.complaints ctx (Check.TrialToken.token a c) := by
  rw [Check.Element.check, if_pos h]
  unfold Check.TrialToken.check Check.TrialToken.complaints
  cases Trial.decode (Check.TrialToken.token a c) <;> rfl

theorem payload_check_iff (h : Rule.isOriginTrial a c) {p : Trial.Payload} :
    (Check.Element.check a ctx c).payload = some (.originTrial p) ↔
      Trial.decode (Check.TrialToken.token a c) = .ok p := by
  rw [Check.Element.check, if_pos h]
  unfold Check.TrialToken.check
  cases Trial.decode (Check.TrialToken.token a c) with
  | ok q => simp
  | error fault => simp [Finding.warning]

def isFaulty (a : Adapter ν) (ctx : Context) (c : ν) : Bool :=
  Rule.isOriginTrial a c && !(Check.Element.check a ctx c).warnings.isEmpty

def faultyWarning (a : Adapter ν) (ctx : Context) (c : ν) : Warning ν :=
  ⟨tokenLead ++ ", ".intercalate (Check.Element.check a ctx c).warnings, [c]⟩

theorem trialWarnings_eq (h : Rule.isOriginTrial a c) : Check.Head.trialWarnings a ctx c =
    if isFaulty a ctx c then [faultyWarning a ctx c] else [] := by
  rw [isFaulty, h, Bool.true_and, faultyWarning, warnings_check h]
  unfold Check.Head.trialWarnings
  cases Check.TrialToken.complaints ctx (Check.TrialToken.token a c) <;> rfl

theorem flatMap_trialWarnings (a : Adapter ν) (ctx : Context) (xs : List ν) :
    (xs.filter (Rule.isOriginTrial a)).flatMap (Check.Head.trialWarnings a ctx) =
      (xs.filter (isFaulty a ctx)).map (faultyWarning a ctx) := by
  induction xs with
  | nil => rfl
  | cons x xs ih =>
    rw [filter_cons, filter_cons]
    cases h : Rule.isOriginTrial a x with
    | true =>
      rw [if_pos rfl, flatMap_cons, trialWarnings_eq h, ih]
      split <;> rfl
    | false =>
      have hf : isFaulty a ctx x = false := by rw [isFaulty, h, Bool.false_and]
      rw [if_neg Bool.false_ne_true, hf, if_neg Bool.false_ne_true, ih]

theorem filter_check (a : Adapter ν) (ctx : Context) (head : ν) :
    (Check.Head.check a ctx head).filter (·.isOfToken) =
      ((a.children head).filter (isFaulty a ctx)).map (faultyWarning a ctx) := by
  have hothers : Tokenless
      (Check.Head.titleWarnings ((a.children head).filter (Rule.isTitle a)) ++
        Check.Head.viewportWarnings ((a.children head).filter (Check.Viewport.isViewport a)) ++
        Check.Head.baseWarnings ((a.children head).filter fun child => a.selects child "base") ++
        Check.Head.policyWarnings ((a.children head).filter (Rule.isContentPolicy a)) ++
        (a.children head).flatMap (Check.Head.placementWarnings a)) := by
    simp only [Tokenless, forall_mem_append]
    exact ⟨⟨⟨⟨tokenless_titleWarnings _, tokenless_viewportWarnings _⟩, tokenless_baseWarnings _⟩,
      tokenless_policyWarnings _⟩, tokenless_placementWarnings a _⟩
  rw [Check.Head.check, hothers.filter_append, flatMap_trialWarnings, filter_eq_self]
  intro w hw
  obtain ⟨c, -, rfl⟩ := mem_map.mp hw
  exact isOfToken_append _ _

/-- Both passes say the same of the tokens in a head. -/
structure TokensAgree (a : Adapter ν) (ctx : Context) (head : ν) : Prop where
  listed : (Check.Head.check a ctx head).filter (·.isOfToken) =
    ((a.children head).filter (isFaulty a ctx)).map (faultyWarning a ctx)
  named_iff : ∀ c ∈ a.children head,
    (∃ w ∈ Check.Head.check a ctx head, w.isOfToken ∧ c ∈ w.elements) ↔
      Rule.isOriginTrial a c ∧ (Check.Element.check a ctx c).warnings ≠ []
  once : ∀ c ∈ a.children head, isFaulty a ctx c →
    ((Check.Head.check a ctx head).filter (·.isOfToken)).filter (c ∈ ·.elements) =
      [faultyWarning a ctx c]
  payload_iff : ∀ c ∈ a.children head, Rule.isOriginTrial a c → ∀ p,
    (Check.Element.check a ctx c).payload = some (.originTrial p) ↔
      Trial.decode (Check.TrialToken.token a c) = .ok p

theorem isFaulty_iff : isFaulty a ctx c ↔
    Rule.isOriginTrial a c ∧ (Check.Element.check a ctx c).warnings ≠ [] := by
  rw [isFaulty, Bool.and_eq_true, Bool.not_eq_true', isEmpty_eq_false_iff]

/-- Where no child is told twice, each faulty token has a warning of its own. -/
theorem tokensAgree (h : (a.children head).Nodup) (ctx : Context) : TokensAgree a ctx head where
  listed := filter_check a ctx head
  named_iff := by
    intro c hc
    rw [← isFaulty_iff]
    constructor
    · rintro ⟨w, hw, ht, he⟩
      have hm := mem_filter.mpr ⟨hw, ht⟩
      rw [filter_check] at hm
      obtain ⟨x, hx, rfl⟩ := mem_map.mp hm
      rw [mem_singleton.mp he]
      exact (mem_filter.mp hx).2
    · intro hf
      have hm : faultyWarning a ctx c ∈ (Check.Head.check a ctx head).filter (·.isOfToken) := by
        rw [filter_check]
        exact mem_map_of_mem (mem_filter.mpr ⟨hc, hf⟩)
      obtain ⟨hw, ht⟩ := mem_filter.mp hm
      exact ⟨_, hw, ht, mem_singleton_self c⟩
  once := by
    intro c hc hf
    have hm : c ∈ (a.children head).filter (isFaulty a ctx) := mem_filter.mpr ⟨hc, hf⟩
    have hnames : ((c ∈ ·.elements) ∘ faultyWarning a ctx : ν → Bool) = (· == c) := by
      funext x
      rw [Function.comp_apply, faultyWarning, Bool.eq_iff_iff, decide_eq_true_iff, mem_singleton,
        beq_iff_eq, eq_comm]
    rw [filter_check, filter_map, hnames, filter_beq,
      count_eq_one_of_mem (h.filter _) hm]
    rfl
  payload_iff := fun c _ ht p => payload_check_iff ht

def brokenTokens : Markup.Document :=
  ⟨[.element "html" []
    [.element "head" []
      [.element "meta" [("http-equiv", "origin-trial"), ("content", "AAAA")] [] [],
        .element "title" [] [.text "A"] [],
        .element "meta" [("http-equiv", "origin-trial")] [] []] []] []]⟩

theorem tokensAgree_brokenTokens :
    ((brokenTokens.adapter none).children [.child 0, .child 0]).Nodup ∧
      TokensAgree (brokenTokens.adapter none) { now := 0 } [.child 0, .child 0] ∧
      ((brokenTokens.adapter none).children [.child 0, .child 0]).filter
          (isFaulty (brokenTokens.adapter none) { now := 0 }) =
        [[.child 0, .child 0, .child 0], [.child 2, .child 0, .child 0]] := by
  have h : ((brokenTokens.adapter none).children [.child 0, .child 0]).Nodup := by decide
  exact ⟨h, tokensAgree h _, by decide +kernel⟩

end HeadAudit
