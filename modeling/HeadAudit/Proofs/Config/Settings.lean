import Mathlib
import HeadAudit.Config

namespace HeadAudit

inductive Setting where
  | url (field : UrlField)
  | adapter
  | option (key : Options.Key)
  deriving DecidableEq

namespace Setting

inductive Value where
  | text (s : Option String)
  | switch (b : Bool)
  deriving DecidableEq

def spellings : Setting → List String
  | url .document => ["documentUrl", "document_url", "document-url"]
  | url .base => ["baseUrl", "base_url", "base-url"]
  | adapter => ["adapter"]
  | option .validation => ["includeValidation", "include_validation", "include-validation"]
  | option .customValidations => ["includeCustomValidations", "include_custom_validations",
      "include-custom-validations"]

/-- The text stands for a value of the setting that the key names. -/
inductive Takes (key value : String) : Setting → Value → Prop
  | url {field : UrlField} {u : Url} (hk : key ∈ (url field).spellings)
      (hu : Url.parse value = .ok u) : Takes key value (url field) (.text (some value))
  | adapter (hk : key ∈ adapter.spellings) (hb : Text.blank value = false) :
      Takes key value adapter (.text (some (Text.trim value)))
  | option {k : Options.Key} {b : Bool} (hk : key ∈ (option k).spellings)
      (hb : Options.bool? value = some b) : Takes key value (option k) (.switch b)

inductive Refuses (key value : String) : ConfigError → Prop
  | unknown (hk : ∀ s : Setting, key ∉ s.spellings) : Refuses key value (.unknownOption key)
  | url {field : UrlField} {fault : UrlFault} (hk : key ∈ (Setting.url field).spellings)
      (hu : Url.parse value = .error fault) : Refuses key value (.invalidUrl field value fault)
  | adapter (hk : key ∈ Setting.adapter.spellings) (hb : Text.blank value = true) :
      Refuses key value (.invalidValue key value "an adapter name")
  | option {k : Options.Key} (hk : key ∈ (Setting.option k).spellings)
      (hb : Options.bool? value = none) :
      Refuses key value
        (.invalidValue key value "a boolean (true/false, 1/0, yes/no, on/off)")

variable {key value : String}

theorem disjoint_spellings (s s' : Setting) (h : s ≠ s') : s.spellings.Disjoint s'.spellings := by
  rcases s with (_ | _) | _ | (_ | _) <;> rcases s' with (_ | _) | _ | (_ | _) <;>
    first | exact absurd rfl h | simp [spellings]

theorem takes_or_refuses (key value : String) :
    (∃ s v, Takes key value s v) ∨ ∃ error, Refuses key value error := by
  by_cases h : ∃ s : Setting, key ∈ s.spellings
  case neg => exact .inr ⟨_, .unknown fun s hs => h ⟨s, hs⟩⟩
  obtain ⟨s, hk⟩ := h
  cases s with
  | url field =>
    cases hu : Url.parse value with
    | ok u => exact .inl ⟨_, _, .url hk hu⟩
    | error fault => exact .inr ⟨_, .url hk hu⟩
  | adapter =>
    cases hb : Text.blank value with
    | false => exact .inl ⟨_, _, .adapter hk hb⟩
    | true => exact .inr ⟨_, .adapter hk hb⟩
  | option k =>
    cases hb : Options.bool? value with
    | some b => exact .inl ⟨_, _, .option hk hb⟩
    | none => exact .inr ⟨_, .option hk hb⟩

end Setting

theorem Options.key?_of_mem {key : String} {k : Options.Key}
    (h : key ∈ (Setting.option k).spellings) : Options.key? key = some k := by
  cases k with
  | validation => exact if_pos h
  | customValidations =>
    have hno :=
      Setting.disjoint_spellings (.option .customValidations) (.option .validation) nofun h
    exact (if_neg hno).trans (if_pos h)

theorem Options.key?_of_not_mem {key : String}
    (h : ∀ k : Options.Key, key ∉ (Setting.option k).spellings) : Options.key? key = none :=
  (if_neg (h .validation)).trans (if_neg (h .customValidations))

namespace Config

open Setting

variable {c c' : Config} {key value : String} {now : Int}

def held (c : Config) : Setting → Setting.Value
  | .url .document => .text c.documentUrl
  | .url .base => .text c.baseUrl
  | .adapter => .text c.adapter
  | .option .validation => .switch c.options.validation
  | .option .customValidations => .switch c.options.customValidations

theorem ext_held (h : ∀ s, c.held s = c'.held s) : c = c' := by
  obtain ⟨⟨v, w⟩, d, b, a⟩ := c
  obtain ⟨⟨v', w'⟩, d', b', a'⟩ := c'
  obtain rfl : d = d' := Value.text.inj (h (.url .document))
  obtain rfl : b = b' := Value.text.inj (h (.url .base))
  obtain rfl : a = a' := Value.text.inj (h .adapter)
  obtain rfl : v = v' := Value.switch.inj (h (.option .validation))
  obtain rfl : w = w' := Value.switch.inj (h (.option .customValidations))
  rfl

theorem set_document (hk : key ∈ (url .document).spellings) : c.set key value =
    (UrlField.document.parse value).map fun _ => { c with documentUrl := some value } := by
  rw [set]
  refine (if_pos hk).trans ?_
  cases UrlField.document.parse value <;> rfl

theorem set_base (hk : key ∈ (url .base).spellings) : c.set key value =
    (UrlField.base.parse value).map fun _ => { c with baseUrl := some value } := by
  have hdocument := disjoint_spellings (url .base) (url .document) nofun hk
  rw [set]
  refine (if_neg hdocument).trans ((if_pos hk).trans ?_)
  cases UrlField.base.parse value <;> rfl

theorem set_adapter (hk : key ∈ Setting.adapter.spellings) : c.set key value =
    if Text.blank value then .error (.invalidValue key value "an adapter name")
    else .ok { c with adapter := some (Text.trim value) } := by
  obtain rfl := List.mem_singleton.mp hk
  rw [set]
  cases Text.blank value <;> rfl

theorem set_other (hu : ∀ field, key ∉ (url field).spellings)
    (ha : key ∉ Setting.adapter.spellings) : c.set key value =
      (c.options.set key value).map fun options => { c with options } := by
  have hne : ¬ (key == "adapter") = true := fun h =>
    ha (List.mem_singleton.mpr (beq_iff_eq.mp h))
  rw [set]
  refine (if_neg (hu .document)).trans ((if_neg (hu .base)).trans ((if_neg hne).trans ?_))
  cases c.options.set key value <;> rfl

theorem set_switch {k : Options.Key} (hk : key ∈ (option k).spellings) : c.set key value =
    match Options.bool? value with
    | some b => .ok { c with options := c.options.put k b }
    | none =>
      .error (.invalidValue key value "a boolean (true/false, 1/0, yes/no, on/off)") := by
  have hu : ∀ field, key ∉ (url field).spellings := fun field =>
    disjoint_spellings (option k) (url field) nofun hk
  have ha : key ∉ Setting.adapter.spellings :=
    disjoint_spellings (option k) .adapter nofun hk
  rw [set_other hu ha, Options.set, Options.key?_of_mem hk]
  cases Options.bool? value <;> rfl

theorem set_unknown (hk : ∀ s : Setting, key ∉ s.spellings) :
    c.set key value = .error (.unknownOption key) := by
  rw [set_other (fun field => hk (url field)) (hk Setting.adapter), Options.set,
    Options.key?_of_not_mem fun k => hk (option k)]
  rfl

def put (c : Config) : Setting → Setting.Value → Config
  | .url .document, .text s => { c with documentUrl := s }
  | .url .base, .text s => { c with baseUrl := s }
  | .adapter, .text s => { c with adapter := s }
  | .option k, .switch b => { c with options := c.options.put k b }
  | _, _ => c

theorem held_put_of_ne {s s' : Setting} (h : s' ≠ s) (v : Setting.Value) :
    (c.put s v).held s' = c.held s' := by
  rcases s with (_ | _) | _ | (_ | _) <;> rcases s' with (_ | _) | _ | (_ | _) <;> cases v <;>
    first | rfl | exact absurd rfl h

theorem set_of_takes {s : Setting} {v : Setting.Value} (h : Takes key value s v) :
    c.set key value = .ok (c.put s v) ∧ (c.put s v).held s = v := by
  cases h with
  | @url field u hk hu =>
    cases field with
    | document =>
      rw [set_document hk, UrlField.parse, hu]
      exact ⟨rfl, rfl⟩
    | base =>
      rw [set_base hk, UrlField.parse, hu]
      exact ⟨rfl, rfl⟩
  | adapter hk hb =>
    rw [set_adapter hk, hb]
    exact ⟨rfl, rfl⟩
  | @option k b hk hb =>
    rw [set_switch hk, hb]
    cases k <;> exact ⟨rfl, rfl⟩

theorem set_of_refuses {error : ConfigError} (h : Refuses key value error) :
    c.set key value = .error error := by
  cases h with
  | unknown hk => exact set_unknown hk
  | @url field fault hk hu =>
    cases field with
    | document =>
      rw [set_document hk, UrlField.parse, hu]
      rfl
    | base =>
      rw [set_base hk, UrlField.parse, hu]
      rfl
  | adapter hk hb =>
    rw [set_adapter hk, hb]
    rfl
  | option hk hb => rw [set_switch hk, hb]

/-- A key and a text change one setting to what the text stands for there, and no other one. -/
theorem set_eq_ok_iff : c.set key value = .ok c' ↔ ∃ s v, Takes key value s v ∧
    c'.held s = v ∧ ∀ s', s' ≠ s → c'.held s' = c.held s' := by
  constructor
  · intro h
    obtain ⟨s, v, ht⟩ | ⟨error, hr⟩ := takes_or_refuses key value
    · obtain ⟨hset, hheld⟩ := set_of_takes (c := c) ht
      obtain rfl := Except.ok.inj (hset.symm.trans h)
      exact ⟨s, v, ht, hheld, fun s' hs => held_put_of_ne hs v⟩
    · exact absurd ((set_of_refuses hr).symm.trans h) nofun
  · rintro ⟨s, v, ht, hs, hothers⟩
    obtain ⟨hset, hheld⟩ := set_of_takes (c := c) ht
    have hput : c.put s v = c' := by
      apply ext_held
      intro s'
      by_cases he : s' = s
      · rw [he, hheld, hs]
      · rw [held_put_of_ne he, hothers s' he]
    rw [hset, hput]

theorem set_eq_error_iff {error : ConfigError} :
    c.set key value = .error error ↔ Refuses key value error := by
  constructor
  · intro h
    obtain ⟨s, v, ht⟩ | ⟨error', hr⟩ := takes_or_refuses key value
    · exact absurd ((set_of_takes ht).1.symm.trans h) nofun
    · rwa [← Except.error.inj ((set_of_refuses hr).symm.trans h)]
  · exact set_of_refuses

def Usable (c : Config) : Prop :=
  ∀ field value, c.held (.url field) = .text (some value) → ∃ u, Url.parse value = .ok u

theorem exists_urlOf_iff {field : UrlField} {text : Option String} :
    (∃ u, urlOf field text = .ok u) ↔
      ∀ value, text = some value → ∃ u, Url.parse value = .ok u := by
  cases text with
  | none => simp [urlOf]
  | some value =>
    rw [urlOf, UrlField.parse]
    cases hu : Url.parse value <;> simp [Except.map, Except.mapError, hu]

theorem exists_context_iff : (∃ ctx, c.context now = .ok ctx) ↔ c.Usable := by
  have hboth : (∃ ctx, c.context now = .ok ctx) ↔
      (∃ u, urlOf .document c.documentUrl = .ok u) ∧ ∃ u, urlOf .base c.baseUrl = .ok u := by
    rw [context]
    cases urlOf .document c.documentUrl <;> cases urlOf .base c.baseUrl <;>
      simp [bind, Except.bind, pure, Except.pure]
  rw [hboth, exists_urlOf_iff, exists_urlOf_iff]
  constructor
  · rintro ⟨hdocument, hbase⟩ field value h
    cases field with
    | document => exact hdocument value (Value.text.inj h)
    | base => exact hbase value (Value.text.inj h)
  · intro h
    exact ⟨fun value hv => h .document value (congrArg _ hv),
      fun value hv => h .base value (congrArg _ hv)⟩

theorem Usable.set (h : c.Usable) (hset : c.set key value = .ok c') : c'.Usable := by
  obtain ⟨s, v, ht, hs, hothers⟩ := set_eq_ok_iff.mp hset
  intro field text htext
  by_cases he : url field = s
  · subst he
    rw [hs] at htext
    subst htext
    cases ht with
    | url hk hu => exact ⟨_, hu⟩
  · rw [hothers _ he] at htext
    exact h field text htext

theorem usable_default : ({} : Config).Usable := by
  rintro (_ | _) value h <;> cases h

theorem usable_of_ofJson {text : String} (h : ofJson text = .ok c) : c.Usable := by
  rw [ofJson] at h
  cases hread : (Json.Reader.whole reader (Utf8.encode text)).mapError ConfigError.json with
  | error error =>
    rw [hread] at h
    cases h
  | ok c' =>
    rw [hread] at h
    cases hctx : c'.context 0 with
    | error error =>
      simp only [bind, Except.bind, hctx] at h
      cases h
    | ok ctx =>
      simp only [bind, Except.bind, hctx] at h
      obtain rfl := Except.ok.inj h
      exact exists_context_iff.mp ⟨ctx, hctx⟩

end Config

end HeadAudit
