import Mathlib
import HeadAudit.Markup.View
import HeadAudit.Proofs.Selector.Tests

namespace HeadAudit.Check

variable {ν : Type} [DecidableEq ν] {a : Adapter ν} {ctx : Context} {x : ν} {value : String}

def dedicated : List String :=
  ["content-security-policy", "content-security-policy-report-only", "origin-trial", "content-type",
    "default-style"]

theorem mem_accepted_iff {pragma : String} :
    pragma ∈ Pragma.accepted ↔ pragma = "refresh" ∨ pragma ∈ dedicated := by
  simp only [Pragma.accepted, dedicated, List.mem_cons, List.not_mem_nil, or_false]
  tauto

/-- A check of its own is what an element gets. -/
inductive Handed (a : Adapter ν) (ctx : Context) (x : ν) : Prop
  | trialToken (h : Rule.isOriginTrial a x)
      (he : Element.check a ctx x = TrialToken.check a ctx x)
  | contentPolicy (h : Rule.isContentPolicy a x)
      (he : Element.check a ctx x = ContentPolicy.check a x)
  | defaultStyle (h : DefaultStyle.isDefaultStyle a x)
      (he : Element.check a ctx x = DefaultStyle.check a x)
  | charset (h : Charset.isDeclaration a x) (he : Element.check a ctx x = Charset.check a x)

section Silence

theorem isEmpty_charset_iff : (Charset.check a x).isEmpty ↔ Charset.warnings a x = [] := by
  rw [Charset.check]
  split
  · next h => exact iff_of_true rfl (List.isEmpty_iff.mp h)
  · next h =>
    rw [Finding.isEmpty, Option.isNone_some, Bool.and_false]
    exact iff_of_false nofun fun he => h (List.isEmpty_iff.mpr he)

theorem isEmpty_defaultStyle : (DefaultStyle.check a x).isEmpty = false := Bool.and_false _

omit [DecidableEq ν]

theorem isSome_ite {p : Prop} [Decidable p] {message : String} {rest : Option String}
    (h : rest.isSome) : (if p then some message else rest).isSome := by
  split
  · rfl
  · exact h

theorem isSome_warning {pragma : String} (h : pragma ∉ Pragma.accepted) (content : Option String) :
    (Pragma.warning? pragma content).isSome := by
  rw [Pragma.warning?, if_neg h]
  iterate 11 refine isSome_ite ?_
  rfl

theorem isEmpty_pragma_iff :
    (Pragma.check a x).isEmpty ↔ Pragma.pragma a x = "refresh" ∨ Pragma.pragma a x ∈ dedicated := by
  rw [← mem_accepted_iff, Pragma.check]
  by_cases h : Pragma.pragma a x ∈ Pragma.accepted
  · rw [Pragma.warning?, if_pos h]
    exact iff_of_true rfl h
  · obtain ⟨message, hm⟩ :=
      Option.isSome_iff_exists.mp (isSome_warning h ((a.attr x "content").map Pragma.folded))
    rw [hm]
    exact iff_of_false nofun h

theorem isEmpty_trialToken : (TrialToken.check a ctx x).isEmpty = false := by
  rw [TrialToken.check]
  cases Trial.decode (TrialToken.token a x) with
  | ok payload => exact Bool.and_false _
  | error fault => rfl

theorem isEmpty_contentPolicy : (ContentPolicy.check a x).isEmpty = false := by
  rw [ContentPolicy.check]
  split
  · rfl
  · split
    · rfl
    · exact Bool.and_false _

end Silence

section Dispatch

theorem handed_iff_or : Handed a ctx x ↔ Rule.isOriginTrial a x ∨ Rule.isContentPolicy a x ∨
    DefaultStyle.isDefaultStyle a x ∨ Charset.isDeclaration a x := by
  constructor
  · rintro (⟨h, -⟩ | ⟨h, -⟩ | ⟨h, -⟩ | ⟨h, -⟩)
    · exact .inl h
    · exact .inr (.inl h)
    · exact .inr (.inr (.inl h))
    · exact .inr (.inr (.inr h))
  · intro h
    by_cases htrial : Rule.isOriginTrial a x
    · exact .trialToken htrial (by rw [Element.check, if_pos htrial])
    by_cases hpolicy : Rule.isContentPolicy a x
    · exact .contentPolicy hpolicy (by rw [Element.check, if_neg htrial, if_pos hpolicy])
    by_cases hstyle : DefaultStyle.isDefaultStyle a x
    · exact .defaultStyle hstyle
        (by rw [Element.check, if_neg htrial, if_neg hpolicy, if_pos hstyle])
    · have hcharset := ((h.resolve_left htrial).resolve_left hpolicy).resolve_left hstyle
      exact .charset hcharset
        (by rw [Element.check, if_neg htrial, if_neg hpolicy, if_neg hstyle, if_pos hcharset])

theorem Handed.warnings_eq_nil (h : Handed a ctx x) (he : (Element.check a ctx x).isEmpty) :
    Charset.isDeclaration a x ∧ Charset.warnings a x = [] := by
  cases h with
  | trialToken _ hcheck =>
    rw [hcheck, isEmpty_trialToken] at he
    cases he
  | contentPolicy _ hcheck =>
    rw [hcheck, isEmpty_contentPolicy] at he
    cases he
  | defaultStyle _ hcheck =>
    rw [hcheck, isEmpty_defaultStyle] at he
    cases he
  | charset hd hcheck =>
    rw [hcheck, isEmpty_charset_iff] at he
    exact ⟨hd, he⟩

variable (ht : a.tagged "meta" x) (hv : a.attr x "http-equiv" = some value)

include ht hv

theorem check_of_not_handed (h : ¬ Handed a ctx x) :
    Element.check a ctx x = Pragma.check a x := by
  rw [handed_iff_or, not_or, not_or, not_or] at h
  have hselects : a.selects x "meta[http-equiv]" := by
    rw [selects_pragma, ht, Adapter.hasAttr, hv]
    rfl
  rw [Element.check, if_neg h.1, if_neg h.2.1, if_neg h.2.2.1, if_neg h.2.2.2, if_pos hselects]

theorem handed_iff :
    Handed a ctx x ↔ Ascii.lower value ∈ dedicated ∨ a.hasAttr x "charset" := by
  have hreads : ∀ pragma ∈ dedicated,
      (a.reads "http-equiv" pragma x ↔ Ascii.lower value = pragma) := by
    intro pragma hp
    have hlower : ∀ pragma ∈ dedicated, Ascii.lower pragma = pragma := by decide +kernel
    rw [Adapter.reads_eq (hlower pragma hp), hv, Option.map_some, Option.some_beq_some, beq_iff_eq]
  simp only [dedicated, List.forall_mem_cons] at hreads
  simp only [handed_iff_or, Rule.isOriginTrial_eq, Rule.isContentPolicy_eq, isDefaultStyle_eq,
    isDeclaration_eq, ht, Bool.true_and, List.any_cons, List.any_nil, Bool.or_false,
    Bool.or_eq_true, hreads, dedicated, List.mem_cons, List.not_mem_nil, or_false]
  simp only [or_comm, or_left_comm]

end Dispatch

/-- What becomes of a pragma that the check of all others may leave out. -/
structure Covered (a : Adapter ν) (ctx : Context) (x : ν) (value : String) : Prop where
  silent_iff : (Pragma.check a x).isEmpty ↔
    Pragma.pragma a x = "refresh" ∨ Pragma.pragma a x ∈ dedicated
  handed_iff : Handed a ctx x ↔ Ascii.lower value ∈ dedicated ∨ a.hasAttr x "charset"
  unhanded : ¬ Handed a ctx x → Element.check a ctx x = Pragma.check a x
  handed : Text.trim value = value ∨ a.hasAttr x "charset" → Pragma.pragma a x ∈ dedicated →
    Handed a ctx x
  quiet : Text.trim value = value ∨ a.hasAttr x "charset" → (Element.check a ctx x).isEmpty →
    Pragma.pragma a x = "refresh" ∨ Charset.isDeclaration a x ∧ Charset.warnings a x = []

/-- No pragma is missed by the check of its own and by that of all others, unless there is white
space around it. -/
theorem covered (he : a.isElement x) (ht : a.tagName x = "meta")
    (hv : a.attr x "http-equiv" = some value) (ctx : Context) : Covered a ctx x value := by
  have htag : a.tagged "meta" x := Adapter.tagged_iff.mpr ⟨he, ht⟩
  have hpragma : Pragma.pragma a x = Ascii.lower (Text.trim value) := by
    rw [Pragma.pragma, hv]
    rfl
  have hhanded : Text.trim value = value ∨ a.hasAttr x "charset" →
      Pragma.pragma a x ∈ dedicated → Handed a ctx x := by
    intro h hd
    rw [handed_iff htag hv]
    refine h.imp_left fun htrim => ?_
    rwa [hpragma, htrim] at hd
  constructor
  case silent_iff => exact isEmpty_pragma_iff
  case handed_iff => exact handed_iff htag hv
  case unhanded => exact check_of_not_handed htag hv
  case handed => exact hhanded
  case quiet =>
    intro h hempty
    by_cases hh : Handed a ctx x
    · exact .inr (hh.warnings_eq_nil hempty)
    · rw [check_of_not_handed htag hv hh, isEmpty_pragma_iff] at hempty
      exact hempty.elim .inl fun hd => absurd (hhanded h hd) hh

def doublePragma : Markup.Document :=
  ⟨[.element "meta" [("http-equiv", " Default-Style "), ("charset", "utf-8")] [] []]⟩

theorem covered_doublePragma :
    (doublePragma.adapter none).isElement [.child 0] ∧
      (doublePragma.adapter none).tagName [.child 0] = "meta" ∧
      (doublePragma.adapter none).attr [.child 0] "http-equiv" = some " Default-Style " ∧
      Covered (doublePragma.adapter none) { now := 0 } [.child 0] " Default-Style " ∧
      Pragma.pragma (doublePragma.adapter none) [.child 0] = "default-style" ∧
      Handed (doublePragma.adapter none) { now := 0 } [.child 0] := by
  have he : (doublePragma.adapter none).isElement [.child 0] := by decide +kernel
  have ht : (doublePragma.adapter none).tagName [.child 0] = "meta" := by decide +kernel
  have hv : (doublePragma.adapter none).attr [.child 0] "http-equiv" = some " Default-Style " := by
    decide +kernel
  have h := covered he ht hv { now := 0 }
  exact ⟨he, ht, hv, h, by decide +kernel, h.handed (.inr (by decide +kernel)) (by decide +kernel)⟩

def paddedPragma : Markup.Document :=
  ⟨[.element "meta" [("http-equiv", " origin-trial "), ("content", "AAAA")] [] []]⟩

/-- Nobody looks at the token. -/
theorem not_handed_paddedPragma :
    (paddedPragma.adapter none).isElement [.child 0] ∧
      (paddedPragma.adapter none).tagName [.child 0] = "meta" ∧
      Pragma.pragma (paddedPragma.adapter none) [.child 0] ∈ dedicated ∧
      (Pragma.check (paddedPragma.adapter none) [.child 0]).isEmpty ∧
      ¬ Handed (paddedPragma.adapter none) { now := 0 } [.child 0] ∧
      (Element.check (paddedPragma.adapter none) { now := 0 } [.child 0]).isEmpty ∧
      Pragma.pragma (paddedPragma.adapter none) [.child 0] ≠ "refresh" ∧
      ¬ Charset.isDeclaration (paddedPragma.adapter none) [.child 0] := by
  have ht : (paddedPragma.adapter none).tagged "meta" [.child 0] := by decide +kernel
  have hv : (paddedPragma.adapter none).attr [.child 0] "http-equiv" = some " origin-trial " := by
    decide +kernel
  have hsilent : (Pragma.check (paddedPragma.adapter none) [.child 0]).isEmpty := by decide +kernel
  have hnot : ¬ Handed (paddedPragma.adapter none) { now := 0 } [.child 0] := by
    rw [handed_iff ht hv]
    decide +kernel
  obtain ⟨he, htag⟩ := Adapter.tagged_iff.mp ht
  refine ⟨he, htag, by decide +kernel, hsilent, hnot, ?_, by decide +kernel, ?_⟩
  · rwa [check_of_not_handed ht hv hnot]
  · exact fun h => hnot (handed_iff_or.mpr (.inr (.inr (.inr h))))

end HeadAudit.Check
