import HeadAudit.Proofs.Calendar
import HeadAudit.Proofs.Json.Writing
import HeadAudit.Report

namespace HeadAudit

open List Function

section Members

variable {α : Type} {key : String} {f : α → Json} {a b : Option α} {xs ys : List (String × Json)}

/-- A member that may be left out is told if none with its key comes next. -/
theorem Json.optional_append_inj (hf : Injective f) (hx : ∀ m ∈ xs.head?, m.1 ≠ key)
    (hy : ∀ m ∈ ys.head?, m.1 ≠ key)
    (h : Json.optional key f a ++ xs = Json.optional key f b ++ ys) : a = b ∧ xs = ys := by
  cases a with
  | none =>
    cases b with
    | none => exact ⟨rfl, h⟩
    | some b =>
      subst h
      exact absurd rfl (hx _ rfl)
  | some a =>
    cases b with
    | none =>
      subst h
      exact absurd rfl (hy _ rfl)
    | some b =>
      obtain ⟨hm, hrest⟩ := cons.inj h
      exact ⟨congrArg some (hf (Prod.mk.inj hm).2), hrest⟩

theorem Json.optional_injective (hf : Injective f) : Injective (Json.optional key f) := by
  intro a b h
  have hnil : ∀ m ∈ ([] : List (String × Json)).head?, m.1 ≠ key := fun m hm => by cases hm
  rw [← append_nil (Json.optional key f a), ← append_nil (Json.optional key f b)] at h
  exact (optional_append_inj hf hnil hnil h).1

theorem Json.orNull_injective (hf : Injective f) (hn : ∀ a, f a ≠ .null) :
    Injective (Json.orNull f) := by
  intro a b h
  cases a with
  | none =>
    cases b with
    | none => rfl
    | some b => exact absurd h.symm (hn b)
  | some a =>
    cases b with
    | none => exact absurd h (hn a)
    | some b => exact congrArg some (hf h)

theorem Json.key_of_mem_optional {m : String × Json} (h : m ∈ (Json.optional key f a).head?) :
    m.1 = key := by
  cases a with
  | none => cases h
  | some a =>
    cases h
    rfl

theorem Json.arr_map_injective (hf : Injective f) :
    Injective fun as : List α => Json.arr (as.map f) :=
  fun _ _ h => map_injective_iff.mpr hf (Json.arr.inj h)

theorem Json.obj_map_injective (hf : Injective f) :
    Injective fun d : Dictionary α => Json.obj (d.map fun (k, v) => (k, f v)) :=
  fun _ _ h => map_injective_iff.mpr (injective_id.prodMap hf) (Json.obj.inj h)

end Members

theorem str_injective : Injective Json.str := fun _ _ h => Json.str.inj h

theorem Category.name_injective : Injective Category.name := by
  have hnodup : (all.map name).Nodup := by decide +kernel
  exact fun a b h => inj_on_of_nodup_map hnodup (mem_all a) (mem_all b) h

namespace Payload

theorem number_injective : Injective number := fun _ _ h => Int.ofNat.inj (Json.num.inj h)

theorem strings_injective : Injective strings := Json.arr_map_injective str_injective

theorem trialMembers_injective : Injective trialMembers := by
  intro p q h
  simp only [trialMembers, cons_append, nil_append, cons.injEq, Prod.mk.injEq, Json.str.injEq,
    Json.bool.injEq, true_and] at h
  obtain ⟨horigin, hfeature, hexpiry, hsub, hthird, husage⟩ := h
  obtain ⟨origin, feature, expiry, isSubdomain, isThirdParty, usage⟩ := p
  rw [Trial.Payload.mk.injEq]
  exact ⟨horigin, hfeature, Instant.text_injective hexpiry, hsub, hthird,
    Json.optional_injective str_injective husage⟩

theorem policyMembers_injective : Injective policyMembers := by
  intro p q h
  have hd := Json.obj_map_injective strings_injective (Prod.mk.inj (cons.inj h).1).2
  exact congrArg Policy.mk hd

theorem orNull_str_injective : Injective (Json.orNull Json.str) :=
  Json.orNull_injective str_injective fun _ h => by cases h

theorem orNull_number_injective : Injective (Json.orNull number) :=
  Json.orNull_injective number_injective fun _ h => by cases h

theorem toJson_injective : Injective toJson := by
  intro p q h
  obtain ⟨hfirst, hmembers⟩ := cons.inj (Json.obj.inj h)
  have hkind : p.kind = q.kind := Json.str.inj (Prod.mk.inj hfirst).2
  -- Data of another kind is told by the member in front.
  cases p with
  | originTrial p =>
    cases q with
    | originTrial q => exact congrArg originTrial (trialMembers_injective hmembers)
    | _ => simp [kind] at hkind
  | contentPolicy p =>
    cases q with
    | contentPolicy q => exact congrArg contentPolicy (policyMembers_injective hmembers)
    | _ => simp [kind] at hkind
  | defaultStyle title stylesheet =>
    cases q with
    | defaultStyle title' stylesheet' =>
      simp only [members, cons.injEq, Prod.mk.injEq, true_and, and_true] at hmembers
      rw [orNull_str_injective hmembers.1, orNull_str_injective hmembers.2]
    | _ => simp [kind] at hkind
  | charset encoding offset =>
    cases q with
    | charset encoding' offset' =>
      simp only [members, cons.injEq, Prod.mk.injEq, true_and, and_true] at hmembers
      rw [orNull_str_injective hmembers.1, orNull_number_injective hmembers.2]
    | _ => simp [kind] at hkind
  | viewport directives =>
    cases q with
    | viewport directives' =>
      have hd := Json.obj_map_injective str_injective (Prod.mk.inj (cons.inj hmembers).1).2
      exact congrArg viewport hd
    | _ => simp [kind] at hkind
  | unnecessaryPreload href url discoveredBy =>
    cases q with
    | unnecessaryPreload href' url' discoveredBy' =>
      simp only [members, cons.injEq, Prod.mk.injEq, Json.str.injEq, true_and, and_true] at hmembers
      rw [hmembers.1, hmembers.2.1, hmembers.2.2]
    | _ => simp [kind] at hkind

end Payload

theorem Location.toJson_injective : Injective Location.toJson := by
  intro l m h
  simp only [toJson, Json.obj.injEq, cons_append, nil_append, cons.injEq, Prod.mk.injEq,
    Json.num.injEq, true_and] at h
  obtain ⟨hline, hcolumn, hends⟩ := h
  have hkey (a : Option Nat) : ∀ m ∈ (Json.optional "endColumn" Payload.number a).head?,
      m.1 ≠ "endLine" := fun m hm => by
    rw [Json.key_of_mem_optional hm]
    decide
  obtain ⟨hendLine, hrest⟩ :=
    Json.optional_append_inj Payload.number_injective (hkey _) (hkey _) hends
  obtain ⟨line, column, endLine, endColumn⟩ := l
  rw [Location.mk.injEq]
  exact ⟨Int.ofNat.inj hline, Int.ofNat.inj hcolumn, hendLine,
    Json.optional_injective Payload.number_injective hrest⟩

theorem Snapshot.toJson_injective : Injective Snapshot.toJson := by
  intro s u h
  simp only [toJson, Json.obj.injEq, append_assoc, cons_append, nil_append] at h
  have hkey (tag : Json) (more : List (String × Json)) :
      ∀ m ∈ (("tag", tag) :: more).head?, m.1 ≠ "index" := fun m hm => by
    cases hm
    exact (by decide : "tag" ≠ "index")
  obtain ⟨hindex, hrest⟩ :=
    Json.optional_append_inj Payload.number_injective (hkey _ _) (hkey _ _) h
  simp only [cons.injEq, Prod.mk.injEq, Json.str.injEq, true_and] at hrest
  obtain ⟨htag, hmarkup, hlocation⟩ := hrest
  obtain ⟨index, tag, markup, location⟩ := s
  rw [Snapshot.mk.injEq]
  exact ⟨hindex, htag, hmarkup, Json.optional_injective Location.toJson_injective hlocation⟩

namespace Report

theorem WeightEntry.toJson_injective : Injective WeightEntry.toJson := by
  intro w x h
  simp only [toJson, Json.obj.injEq, cons.injEq, Prod.mk.injEq, Json.str.injEq, Json.num.injEq,
    Json.bool.injEq, true_and, and_true] at h
  obtain ⟨helement, hcategory, hweight, hvalid⟩ := h
  obtain ⟨element, category, weight, valid⟩ := w
  rw [WeightEntry.mk.injEq]
  exact ⟨Snapshot.toJson_injective helement, Category.name_injective hcategory,
    Int.ofNat.inj hweight, hvalid⟩

theorem WarningEntry.toJson_injective : Injective WarningEntry.toJson := by
  intro w x h
  simp only [toJson, Json.obj.injEq, cons.injEq, Prod.mk.injEq, Json.str.injEq, true_and,
    and_true] at h
  obtain ⟨hmessage, helements⟩ := h
  obtain ⟨message, elements⟩ := w
  rw [WarningEntry.mk.injEq]
  exact ⟨hmessage, Json.arr_map_injective Snapshot.toJson_injective helements⟩

theorem FindingEntry.toJson_injective : Injective FindingEntry.toJson := by
  intro f g h
  simp only [toJson, Json.obj.injEq, cons_append, nil_append, cons.injEq, Prod.mk.injEq,
    true_and] at h
  obtain ⟨helement, hwarnings, hpayload⟩ := h
  obtain ⟨element, warnings, payload⟩ := f
  rw [FindingEntry.mk.injEq]
  exact ⟨Snapshot.toJson_injective helement, Payload.strings_injective hwarnings,
    Json.optional_injective Payload.toJson_injective hpayload⟩

theorem ViolationEntry.toJson_injective : Injective ViolationEntry.toJson := by
  intro v w h
  simp only [toJson, Json.obj.injEq, cons.injEq, Prod.mk.injEq, Json.str.injEq, Json.num.injEq,
    true_and, and_true] at h
  obtain ⟨hindex, helement, hprevious, hweight, hpreviousWeight, hcategory, hpreviousCategory,
    hmessage⟩ := h
  obtain ⟨index, element, previous, weight, previousWeight, category, previousCategory,
    message⟩ := v
  rw [ViolationEntry.mk.injEq]
  exact ⟨Int.ofNat.inj hindex, Snapshot.toJson_injective helement,
    Snapshot.toJson_injective hprevious, Int.ofNat.inj hweight, Int.ofNat.inj hpreviousWeight,
    Category.name_injective hcategory, Category.name_injective hpreviousCategory, hmessage⟩

theorem toJson_injective : Injective toJson := by
  intro r s h
  simp only [toJson, Json.obj.injEq, cons.injEq, Prod.mk.injEq, Json.str.injEq, true_and,
    and_true] at h
  obtain ⟨hadapter, hweights, hwarnings, hfindings, hviolations⟩ := h
  obtain ⟨adapter, weights, warnings, findings, violations⟩ := r
  rw [Report.mk.injEq]
  exact ⟨hadapter, Json.arr_map_injective WeightEntry.toJson_injective hweights,
    Json.arr_map_injective WarningEntry.toJson_injective hwarnings,
    Json.arr_map_injective FindingEntry.toJson_injective hfindings,
    Json.arr_map_injective ViolationEntry.toJson_injective hviolations⟩

/-- Reports with the same text are the same in every field. -/
theorem text_eq_text_iff (r s : Report) : r.text = s.text ↔ r = s :=
  ⟨fun h => toJson_injective (Json.pretty_injective h), congrArg text⟩

end Report

end HeadAudit
