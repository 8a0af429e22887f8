import HeadAudit.Proofs.Parity.Offset

namespace HeadAudit

open List

section Rules

variable {ν μ : Type} {a : Adapter ν} {b : Adapter μ} {R : ν → μ → Prop} {rank : ν → Nat} {x : ν}
  {y : μ}

theorem Similar.scriptType? (h : Similar a b R rank) (hxy : R x y) :
    Rule.scriptType? a x = Rule.scriptType? b y := by
  rw [Rule.scriptType?, Rule.scriptType?, h.attr hxy]

theorem Similar.rules (h : Similar a b R rank) (hxy : R x y) :
    (Rule.table a).map (fun rule => (rule.1, rule.2 x)) =
      (Rule.table b).map fun rule => (rule.1, rule.2 y) := by
  simp only [Rule.table, map_cons, map_nil, Rule.isPragma, Rule.isTitle, Rule.isPreconnect,
    Rule.isAsyncScript, Rule.isImportStyles, Rule.isSyncScript, Rule.isSyncStyles, Rule.isPreload,
    Rule.isDeferScript, Rule.isPrefetchPrerender, Rule.isDeferredModule, Rule.isModule,
    h.scriptType? hxy, h.selects hxy, h.selectsAny hxy, h.hasAttr hxy, h.attr hxy, h.tagName hxy,
    h.textContent hxy]

theorem firstMatch_eq (rules : List (Category × (ν → Bool))) (x : ν) :
    Rule.firstMatch rules x =
      (((rules.map fun rule => (rule.1, rule.2 x)).find? (·.2)).map (·.1)).getD .other := by
  rw [Rule.firstMatch, find?_map, Option.map_map]
  rfl

theorem Similar.classify (h : Similar a b R rank) (hxy : R x y) :
    Rule.classify a x = Rule.classify b y := by
  rw [Rule.classify, Rule.classify, firstMatch_eq, firstMatch_eq, h.rules hxy]

end Rules

section Checks

variable {ν μ : Type} {a : Adapter ν} {b : Adapter μ} {R : ν → μ → Prop} {rank : ν → Nat} {x : ν}
  {y : μ}

theorem Similar.trialToken (h : Similar a b R rank) (hxy : R x y) (ctx : Context) :
    Check.TrialToken.check a ctx x = Check.TrialToken.check b ctx y := by
  rw [Check.TrialToken.check, Check.TrialToken.check, Check.TrialToken.token,
    Check.TrialToken.token, h.attr hxy]

theorem Similar.contentPolicy (h : Similar a b R rank) (hxy : R x y) :
    Check.ContentPolicy.check a x = Check.ContentPolicy.check b y := by
  rw [Check.ContentPolicy.check, Check.ContentPolicy.check, h.selects hxy, h.attr hxy]

theorem Similar.pragma (h : Similar a b R rank) (hxy : R x y) :
    Check.Pragma.check a x = Check.Pragma.check b y := by
  rw [Check.Pragma.check, Check.Pragma.check, Check.Pragma.pragma, Check.Pragma.pragma,
    h.attr hxy, h.attr hxy]

theorem Similar.isAlternate (h : Similar a b R rank) (hxy : R x y) (title : String) :
    Check.DefaultStyle.isAlternate a title x = Check.DefaultStyle.isAlternate b title y := by
  rw [Check.DefaultStyle.isAlternate, Check.DefaultStyle.isAlternate, h.selects hxy, h.attr hxy,
    h.attr hxy]

theorem Similar.isDeclaration (h : Similar a b R rank) (hxy : R x y) :
    Check.Charset.isDeclaration a x = Check.Charset.isDeclaration b y :=
  h.selectsAny hxy _

theorem Similar.declared? (h : Similar a b R rank) (hxy : R x y) :
    Check.Charset.declared? a x = Check.Charset.declared? b y := by
  rw [Check.Charset.declared?, Check.Charset.declared?, h.attr hxy, h.attr hxy]

theorem Similar.isPreload (h : Similar a b R rank) (hxy : R x y) :
    Check.Preload.isPreload a x = Check.Preload.isPreload b y :=
  h.selectsAny hxy _

theorem Similar.reference? (h : Similar a b R rank) (hxy : R x y) :
    Check.Preload.reference? a x = Check.Preload.reference? b y := by
  rw [Check.Preload.reference?, Check.Preload.reference?, h.selects hxy, h.selects hxy,
    h.isPreload hxy, h.attr hxy, h.attr hxy]

end Checks

namespace SameHead

variable {ν μ : Type} [DecidableEq ν] [DecidableEq μ] {a : Adapter ν} {b : Adapter μ}
  {R : ν → μ → Prop} {rank : ν → Nat} {head : ν} {head' : μ} {x : ν} {y : μ}

theorem defaultStyle (h : SameHead a b R rank head head')
    (hxy : Counterparts a b R head head' x y) :
    Check.DefaultStyle.check a x = Check.DefaultStyle.check b y := by
  have hs : ∀ title, Option.Rel (Counterparts a b R head head')
      ((a.siblings x).find? (Check.DefaultStyle.isAlternate a title))
      ((b.siblings y).find? (Check.DefaultStyle.isAlternate b title)) := fun title =>
    rel_find? (h.siblings hxy) fun hcd => h.isAlternate hcd.related title
  rw [Check.DefaultStyle.check, Check.DefaultStyle.check, h.attr hxy.related]
  cases (b.attr y "content").filter (!Text.blank ·) with
  | none => rfl
  | some title =>
    have ht := hs title
    simp only [Option.bind_some]
    generalize (a.siblings x).find? (Check.DefaultStyle.isAlternate a title) = found at ht
    generalize (b.siblings y).find? (Check.DefaultStyle.isAlternate b title) = found' at ht
    cases ht with
    | none => rfl
    | some hcd => simp only [Option.map_some, h.startTag hcd.related]

theorem charset (h : SameHead a b R rank head head') (hxy : Counterparts a b R head head' x y) :
    Check.Charset.check a x = Check.Charset.check b y := by
  have hs : (a.siblings x).any (Check.Charset.isDeclaration a) =
      (b.siblings y).any (Check.Charset.isDeclaration b) :=
    rel_any (h.siblings hxy) fun hcd => h.isDeclaration hcd.related
  have hw : Check.Charset.warnings a x = Check.Charset.warnings b y := by
    rw [Check.Charset.warnings, Check.Charset.warnings, hs, h.endOffset? hxy,
      h.declared? hxy.related]
  rw [Check.Charset.check, Check.Charset.check, hw, h.endOffset? hxy, h.declared? hxy.related]

theorem viewport (h : SameHead a b R rank head head') (hxy : Counterparts a b R head head' x y) :
    Check.Viewport.check a x = Check.Viewport.check b y := by
  have hfirst : Option.Rel (Counterparts a b R head head') (Check.Viewport.first? a x)
      (Check.Viewport.first? b y) := by
    rw [Check.Viewport.first?, Check.Viewport.first?, h.parent x hxy.mem, h.parent' y hxy.mem']
    exact rel_find? h.counterparts fun hcd => h.selects hcd.related _
  have hany : (Check.Viewport.first? a x).any (· ≠ x) =
      (Check.Viewport.first? b y).any (· ≠ y) := by
    generalize Check.Viewport.first? a x = first at hfirst
    generalize Check.Viewport.first? b y = first' at hfirst
    cases hfirst with
    | none => rfl
    | some hcd => simp only [Option.any_some, ne_eq, h.eq_iff hcd.related hxy.related]
  rw [Check.Viewport.check, Check.Viewport.check, hany, h.attr hxy.related]

structure SameDiscovery (a : Adapter ν) (b : Adapter μ) (R : ν → μ → Prop) (head : ν) (head' : μ)
    (d : Check.Preload.Discovery ν) (d' : Check.Preload.Discovery μ) : Prop where
  href : d.href = d'.href
  url : d.url = d'.url
  discoverer : Counterparts a b R head head' d.discoverer d'.discoverer

theorem discovery? (h : SameHead a b R rank head head') (hxy : Counterparts a b R head head' x y)
    (ctx : Context) : Option.Rel (SameDiscovery a b R head head')
      (Check.Preload.discovery? a ctx x) (Check.Preload.discovery? b ctx y) := by
  rw [Check.Preload.discovery?, Check.Preload.discovery?, h.isPreload hxy.related,
    h.parent x hxy.mem, h.parent' y hxy.mem', h.attr hxy.related, Option.bind_some,
    Option.bind_some, h.effectiveBase]
  cases Check.Preload.isPreload b y with
  | false => exact .none
  | true =>
    cases b.attr y "href" with
    | none => exact .none
    | some href =>
      refine rel_optionMap (rel_find? (h.siblings hxy) fun hcd => ?_) fun hcd => ⟨rfl, rfl, hcd⟩
      rw [h.reference? hcd.related]

theorem preload (h : SameHead a b R rank head head') (hxy : Counterparts a b R head head' x y)
    (ctx : Context) : Check.Preload.check a ctx x = Check.Preload.check b ctx y := by
  have hd := h.discovery? hxy ctx
  rw [Check.Preload.check, Check.Preload.check]
  generalize Check.Preload.discovery? a ctx x = d at hd
  generalize Check.Preload.discovery? b ctx y = d' at hd
  cases hd with
  | none => rfl
  | some hd =>
    simp only [hd.href, hd.url, h.tagName hd.discoverer.related, h.startTag hd.discoverer.related]

theorem isUnnecessary (h : SameHead a b R rank head head')
    (hxy : Counterparts a b R head head' x y) (ctx : Context) :
    Check.Preload.isUnnecessary a ctx x = Check.Preload.isUnnecessary b ctx y := by
  have hd := h.discovery? hxy ctx
  rw [Check.Preload.isUnnecessary, Check.Preload.isUnnecessary]
  generalize Check.Preload.discovery? a ctx x = d at hd
  generalize Check.Preload.discovery? b ctx y = d' at hd
  cases hd <;> rfl

theorem elementCheck (h : SameHead a b R rank head head')
    (hxy : Counterparts a b R head head' x y) (ctx : Context) :
    Check.Element.check a ctx x = Check.Element.check b ctx y := by
  rw [Check.Element.check, Check.Element.check, Rule.isOriginTrial, Rule.isOriginTrial,
    Rule.isContentPolicy, Rule.isContentPolicy, Check.DefaultStyle.isDefaultStyle,
    Check.DefaultStyle.isDefaultStyle, Check.Viewport.isViewport, Check.Viewport.isViewport,
    h.selects hxy.related, h.selects hxy.related, h.selects hxy.related, h.selects hxy.related,
    h.selectsAny hxy.related, h.isDeclaration hxy.related, h.trialToken hxy.related,
    h.contentPolicy hxy.related, h.defaultStyle hxy, h.charset hxy, h.pragma hxy.related,
    h.viewport hxy, h.isUnnecessary hxy, h.preload hxy]

end SameHead

end HeadAudit
