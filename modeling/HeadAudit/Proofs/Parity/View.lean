import Mathlib
import HeadAudit.Report

namespace HeadAudit

open List Relator

/-- Nodes that look the same in two views, with all that is below them. No node below another has
its rank. -/
structure Similar {ν μ : Type} (a : Adapter ν) (b : Adapter μ) (R : ν → μ → Prop)
    (rank : ν → Nat) : Prop where
  isElement : ∀ {x y}, R x y → a.isElement x = b.isElement y
  tagName : ∀ {x y}, R x y → a.tagName x = b.tagName y
  attr : ∀ {x y}, R x y → ∀ name, a.attr x name = b.attr y name
  attrNames : ∀ {x y}, R x y → a.attrNames x = b.attrNames y
  textContent : ∀ {x y}, R x y → a.textContent x = b.textContent y
  children : ∀ {x y}, R x y → Forall₂ R (a.children x) (b.children y)
  unique : BiUnique R
  rank_lt : ∀ {x y c}, R x y → c ∈ a.children x → rank c < rank x

/-- A head in two views is the first child of a topmost element that is written alike in both. What
follows the head may differ. -/
structure Around {ν μ : Type} (a : Adapter ν) (b : Adapter μ) (head top : ν) (head' top' : μ) :
    Prop where
  parent : a.parent head = some top
  parent' : b.parent head' = some top'
  topmost : a.parent top = none
  topmost' : b.parent top' = none
  first : (a.children top).head? = some head
  first' : (b.children top').head? = some head'
  notVoid : Written.isVoid (a.tagName top) = false
  tagName : a.tagName top = b.tagName top'
  writeStart : a.writeStart top = b.writeStart top'
  textContent : a.textContent top = b.textContent top'

/-- Two views of one head. -/
structure SameHead {ν μ : Type} (a : Adapter ν) (b : Adapter μ) (R : ν → μ → Prop)
    (rank : ν → Nat) (head : ν) (head' : μ) : Prop extends Similar a b R rank where
  related : R head head'
  notVoid : Written.isVoid (a.tagName head) = false
  rank_lt_height : rank head < a.height
  rank_lt_height' : rank head < b.height
  parent : ∀ x ∈ a.children head, a.parent x = some head
  parent' : ∀ y ∈ b.children head', b.parent y = some head'
  around : ∃ top top', Around a b head top head' top'

/-- Nodes that stand for each other among the children of a head. -/
structure Counterparts {ν μ : Type} (a : Adapter ν) (b : Adapter μ) (R : ν → μ → Prop) (head : ν)
    (head' : μ) (x : ν) (y : μ) : Prop where
  related : R x y
  mem : x ∈ a.children head
  mem' : y ∈ b.children head'

theorem forall₂_and_mem {α β : Type} {R : α → β → Prop} {xs : List α} {ys : List β}
    (h : Forall₂ R xs ys) : Forall₂ (fun x y => R x y ∧ x ∈ xs ∧ y ∈ ys) xs ys := by
  induction h with
  | nil => exact .nil
  | cons h _ ih =>
    refine .cons ⟨h, mem_cons_self, mem_cons_self⟩ (ih.imp ?_)
    exact fun _ _ hxy => ⟨hxy.1, mem_cons_of_mem _ hxy.2.1, mem_cons_of_mem _ hxy.2.2⟩

/-- What is found in one of two lists stands for what is found in the other. -/
theorem rel_find? {α β : Type} {R : α → β → Prop} {p : α → Bool} {q : β → Bool} {xs : List α}
    {ys : List β} (h : Forall₂ R xs ys) (hp : ∀ {x y}, R x y → p x = q y) :
    Option.Rel R (xs.find? p) (ys.find? q) := by
  induction h with
  | nil => exact .none
  | @cons x y _ _ hxy _ ih =>
    rw [find?_cons, find?_cons, hp hxy]
    cases q y with
    | true => exact .some hxy
    | false => exact ih

theorem bind_eq_of_rel {α β γ : Type} {R : α → β → Prop} {f : α → Option γ} {g : β → Option γ}
    {o : Option α} {o' : Option β} (h : Option.Rel R o o') (hf : ∀ {x y}, R x y → f x = g y) :
    o.bind f = o'.bind g := by
  cases h with
  | none => rfl
  | some hxy => exact hf hxy

theorem rel_optionMap {α β α' β' : Type} {R : α → β → Prop} {S : α' → β' → Prop} {f : α → α'}
    {g : β → β'} {o : Option α} {o' : Option β} (h : Option.Rel R o o')
    (hf : ∀ {x y}, R x y → S (f x) (g y)) : Option.Rel S (o.map f) (o'.map g) := by
  cases h with
  | none => exact .none
  | some hxy => exact .some (hf hxy)

theorem rel_any {α β : Type} {R : α → β → Prop} {p : α → Bool} {q : β → Bool} {xs : List α}
    {ys : List β} (h : Forall₂ R xs ys) (hp : ∀ {x y}, R x y → p x = q y) :
    xs.any p = ys.any q := by
  induction h with
  | nil => rfl
  | cons hxy _ ih => rw [any_cons, any_cons, hp hxy, ih]

theorem map_eq_of_rel {α β γ : Type} {R : α → β → Prop} {f : α → γ} {g : β → γ} {xs : List α}
    {ys : List β} (h : Forall₂ R xs ys) (hf : ∀ {x y}, R x y → f x = g y) :
    xs.map f = ys.map g := by
  induction h with
  | nil => rfl
  | cons hxy _ ih => rw [map_cons, map_cons, hf hxy, ih]

theorem rel_filter_of_eq {α β : Type} {R : α → β → Prop} {p : α → Bool} {q : β → Bool} {xs : List α}
    {ys : List β} (h : Forall₂ R xs ys) (hp : ∀ {x y}, R x y → p x = q y) :
    Forall₂ R (xs.filter p) (ys.filter q) :=
  rel_filter (fun _ _ hxy => Bool.eq_iff_iff.mp (hp hxy)) h

namespace Similar

variable {ν μ : Type} {a : Adapter ν} {b : Adapter μ} {R : ν → μ → Prop} {rank : ν → Nat}
  {x : ν} {y : μ}

theorem hasAttr (h : Similar a b R rank) (hxy : R x y) (name : String) :
    a.hasAttr x name = b.hasAttr y name := by
  rw [Adapter.hasAttr, Adapter.hasAttr, h.attr hxy]

theorem selects (h : Similar a b R rank) (hxy : R x y) (pattern : String) :
    a.selects x pattern = b.selects y pattern := by
  have ht : ∀ t : AttributeTest, t.holds a x = t.holds b y := fun t => by
    rw [AttributeTest.holds, AttributeTest.holds, h.attr hxy]
  have hs : ∀ s : Selector, s.holds a x = s.holds b y := fun s => by
    rw [Selector.holds, Selector.holds, h.isElement hxy, h.tagName hxy]
    simp only [ht]
  rw [Adapter.selects, Adapter.selects]
  simp only [hs]

theorem selectsAny (h : Similar a b R rank) (hxy : R x y) (patterns : List String) :
    a.selectsAny x patterns = b.selectsAny y patterns := by
  rw [Adapter.selectsAny, Adapter.selectsAny]
  exact congrArg patterns.any (funext fun pattern => h.selects hxy pattern)

theorem writeStart (h : Similar a b R rank) (hxy : R x y) : a.writeStart x = b.writeStart y := by
  rw [Adapter.writeStart, Adapter.writeStart, h.tagName hxy, h.attrNames hxy]
  simp only [h.attr hxy]

theorem startTag (h : Similar a b R rank) (hxy : R x y) : a.startTag x = b.startTag y := by
  rw [Adapter.startTag, Adapter.startTag, h.isElement hxy, h.writeStart hxy]

theorem eq_iff (h : Similar a b R rank) {x' : ν} {y' : μ} (hxy : R x y) (hxy' : R x' y') :
    x = x' ↔ y = y' :=
  rel_eq h.unique hxy hxy'

end Similar

namespace SameHead

variable {ν μ : Type} {a : Adapter ν} {b : Adapter μ} {R : ν → μ → Prop} {rank : ν → Nat}
  {head : ν} {head' : μ} {x : ν} {y : μ}

theorem counterparts (h : SameHead a b R rank head head') :
    Forall₂ (Counterparts a b R head head') (a.children head) (b.children head') :=
  (forall₂_and_mem (h.children h.related)).imp fun _ _ hxy => ⟨hxy.1, hxy.2.1, hxy.2.2⟩

theorem effectiveBase (h : SameHead a b R rank head head') (ctx : Context) :
    ctx.effectiveBase a head = ctx.effectiveBase b head' := by
  have hbase := rel_find? h.counterparts (p := fun child => a.selects child "base[href]")
    (q := fun child => b.selects child "base[href]") fun hxy => h.selects hxy.related _
  have hhref := bind_eq_of_rel hbase (f := fun child => a.attr child "href")
    (g := fun child => b.attr child "href") fun hxy => h.attr hxy.related "href"
  rw [Context.effectiveBase, Context.effectiveBase]
  simp only [hhref]

variable [DecidableEq ν] [DecidableEq μ]

theorem siblings (h : SameHead a b R rank head head') (hxy : Counterparts a b R head head' x y) :
    Forall₂ (Counterparts a b R head head') (a.siblings x) (b.siblings y) := by
  rw [Adapter.siblings, h.parent x hxy.mem, Adapter.siblings, h.parent' y hxy.mem']
  apply rel_filter_of_eq h.counterparts
  intro _ _ hxy'
  rw [decide_eq_decide, ne_eq, ne_eq, h.eq_iff hxy'.related hxy.related]

end SameHead

end HeadAudit
