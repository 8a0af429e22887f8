import HeadAudit.Engine.Steps
import HeadAudit.Proofs.Config.Settings
import HeadAudit.Proofs.Registry.Runs

namespace HeadAudit.Engine

open Setting

variable {e e' : Engine} {key value : String}

/-- The engine that an update leaves behind, also where one of its steps is refused. -/
def update (e : Engine) (key value : String) : Engine := stateAfter (Steps.set key value) e

def run (e : Engine) (updates : List (String × String)) : Engine :=
  updates.foldl (fun e u => e.update u.1 u.2) e

def Known (r : Registry) (c : Config) : Prop := ∀ name, c.adapter = some name → name ∈ r.names

inductive Refuses (e : Engine) (key value : String) : EngineError → Prop
  | config {error : ConfigError} (h : Setting.Refuses key value error) :
      Refuses e key value (.config error)
  | unregistered {c : Config} {name : String} (h : e.config.set key value = .ok c)
      (ha : c.adapter = some name) (hn : name ∉ e.registry.names) :
      Refuses e key value (.registry (.unknownAdapter name e.registry.names))

theorem checkAdapter_of_known {r : Registry} {c : Config} (h : Known r c) :
    checkAdapter r c = .ok () := by
  rw [checkAdapter]
  cases ha : c.adapter with
  | none => rfl
  | some name =>
    have hcheck := (Registry.known_of_mem (h name ha)).2.1
    dsimp only
    rw [hcheck]
    rfl

theorem checkAdapter_of_not_mem {r : Registry} {c : Config} {name : String}
    (ha : c.adapter = some name) (hn : name ∉ r.names) :
    checkAdapter r c = .error (.registry (.unknownAdapter name r.names)) := by
  have hcheck := (Registry.unknown_of_not_mem hn).2.1
  rw [checkAdapter, ha]
  dsimp only
  rw [hcheck]
  rfl

theorem set_of_error {error : ConfigError} (h : e.config.set key value = .error error) :
    e.set key value = .error (.config error) := by
  rw [set, h]
  rfl

theorem set_of_known {c : Config} (h : e.config.set key value = .ok c)
    (hk : Known e.registry c) : e.set key value = .ok { e with config := c } := by
  have hcheck := checkAdapter_of_known hk
  rw [set, h]
  dsimp only [Except.mapError, bind, Except.bind]
  rw [hcheck]
  rfl

theorem set_of_not_mem {c : Config} {name : String} (h : e.config.set key value = .ok c)
    (ha : c.adapter = some name) (hn : name ∉ e.registry.names) :
    e.set key value = .error (.registry (.unknownAdapter name e.registry.names)) := by
  have hcheck := checkAdapter_of_not_mem ha hn
  rw [set, h]
  dsimp only [Except.mapError, bind, Except.bind]
  rw [hcheck]

theorem known_or_not_mem (r : Registry) (c : Config) :
    Known r c ∨ ∃ name, c.adapter = some name ∧ name ∉ r.names := by
  by_cases h : Known r c
  · exact .inl h
  · simp only [Known, not_forall] at h
    obtain ⟨name, ha, hn⟩ := h
    exact .inr ⟨name, ha, hn⟩

theorem set_eq_ok_iff : e.set key value = .ok e' ↔
    ∃ c, e.config.set key value = .ok c ∧ Known e.registry c ∧ e' = { e with config := c } := by
  constructor
  · intro h
    cases hc : e.config.set key value with
    | error error => exact absurd ((set_of_error hc).symm.trans h) nofun
    | ok c =>
      obtain hk | ⟨name, ha, hn⟩ := known_or_not_mem e.registry c
      · exact ⟨c, rfl, hk, (Except.ok.inj ((set_of_known hc hk).symm.trans h)).symm⟩
      · exact absurd ((set_of_not_mem hc ha hn).symm.trans h) nofun
  · rintro ⟨c, hc, hk, rfl⟩
    exact set_of_known hc hk

theorem set_eq_error_iff {error : EngineError} :
    e.set key value = .error error ↔ e.Refuses key value error := by
  constructor
  · intro h
    cases hc : e.config.set key value with
    | error why =>
      rw [← Except.error.inj ((set_of_error hc).symm.trans h)]
      exact .config (Config.set_eq_error_iff.mp hc)
    | ok c =>
      obtain hk | ⟨name, ha, hn⟩ := known_or_not_mem e.registry c
      · exact absurd ((set_of_known hc hk).symm.trans h) nofun
      · rw [← Except.error.inj ((set_of_not_mem hc ha hn).symm.trans h)]
        exact .unregistered hc ha hn
  · rintro (h | ⟨hc, ha, hn⟩)
    · exact set_of_error (Config.set_eq_error_iff.mpr h)
    · exact set_of_not_mem hc ha hn

theorem run_configSteps (c : Config) :
    (Config.Steps.set key value).run c = settled c ((c.set key value).map (·, ())) := by
  rw [Config.Steps.set, Config.set]
  split
  · rw [EStateM.run_bind, run_ofExcept]
    cases UrlField.document.parse value <;> rfl
  · split
    · rw [EStateM.run_bind, run_ofExcept]
      cases UrlField.base.parse value <;> rfl
    · split
      · cases Text.blank value <;> rfl
      · rw [run_bind_of_ok (EStateM.run_get c), EStateM.run_bind, run_ofExcept]
        cases c.options.set key value <;> rfl

/-- An update is made as a whole or not at all. -/
theorem run_steps (e : Engine) :
    (Steps.set key value).run e = settled e ((e.set key value).map (·, ())) := by
  rw [Steps.set, run_bind_of_ok (EStateM.run_get e), run_configSteps, set]
  cases e.config.set key value with
  | error error => rfl
  | ok c =>
    change (do
      let _ ← MonadExcept.ofExcept (checkAdapter e.registry c)
      modify fun e : Engine => { e with config := c } : EStateM EngineError Engine Unit).run e = _
    rw [EStateM.run_bind, run_ofExcept]
    dsimp only [Except.mapError, bind, Except.bind]
    cases checkAdapter e.registry c <;> rfl

theorem update_of_error {error : EngineError} (h : e.set key value = .error error) :
    e.update key value = e := by
  rw [update, stateAfter_of_settled (run_steps e), h]
  rfl

theorem update_of_ok (h : e.set key value = .ok e') : e.update key value = e' := by
  rw [update, stateAfter_of_settled (run_steps e), h]
  rfl

/-- What each accepted update keeps, a run keeps. -/
theorem run_induction {P : Engine → Prop} (updates : List (String × String)) (he : P e)
    (hset : ∀ {e e' key value}, P e → e.set key value = .ok e' → P e') : P (e.run updates) := by
  induction updates generalizing e with
  | nil => exact he
  | cons u updates ih =>
    refine ih (e := e.update u.1 u.2) ?_
    cases h : e.set u.1 u.2 with
    | ok e' =>
      rw [update_of_ok h]
      exact hset he h
    | error error => rwa [update_of_error h]

/-- What comes of an update. -/
structure Updates (e : Engine) (key value : String) : Prop where
  fails_iff : ∀ error, e.set key value = .error error ↔ e.Refuses key value error
  refused : ∀ error, e.set key value = .error error → e.update key value = e
  made : ∀ e', e.set key value = .ok e' → e.update key value = e' ∧
    e.config.set key value = .ok e'.config ∧ e'.registry = e.registry
  changed : ∀ e', e.set key value = .ok e' → ∃ s v, Takes key value s v ∧
    e'.config.held s = v ∧ ∀ s', s' ≠ s → e'.config.held s' = e.config.held s'
  known : ∀ e', e.set key value = .ok e' → Known e'.registry e'.config

theorem updates (e : Engine) (key value : String) : e.Updates key value := by
  constructor
  case fails_iff => exact fun _ => set_eq_error_iff
  case refused => exact fun _ => update_of_error
  case made =>
    intro e' h
    obtain ⟨c, hc, -, rfl⟩ := set_eq_ok_iff.mp h
    exact ⟨update_of_ok h, hc, rfl⟩
  case changed =>
    intro e' h
    obtain ⟨c, hc, -, rfl⟩ := set_eq_ok_iff.mp h
    exact Config.set_eq_ok_iff.mp hc
  case known =>
    intro e' h
    obtain ⟨c, -, hk, rfl⟩ := set_eq_ok_iff.mp h
    exact hk

/-- What holds of an engine after a run of updates. -/
structure Steady (e : Engine) (updates : List (String × String)) : Prop where
  registry : (e.run updates).registry = e.registry
  each : ∀ key value, (e.run updates).Updates key value
  known : Known e.registry e.config → Known e.registry (e.run updates).config
  /-- An analysis gets its context if it got it at first. -/
  context : e.config = {} ∨ (∃ text, Config.ofJson text = .ok e.config) →
    ∀ now, ∃ ctx, (e.run updates).config.context now = .ok ctx

theorem registry_run (e : Engine) (updates : List (String × String)) :
    (e.run updates).registry = e.registry := by
  apply run_induction (P := fun e' => e'.registry = e.registry) updates rfl
  intro e₁ e₂ key value h hset
  obtain ⟨c, -, -, rfl⟩ := set_eq_ok_iff.mp hset
  exact h

theorem known_run (h : Known e.registry e.config) (updates : List (String × String)) :
    Known (e.run updates).registry (e.run updates).config := by
  apply run_induction (P := fun e => Known e.registry e.config) updates h
  intro e₁ e₂ key value _ hset
  obtain ⟨c, -, hk, rfl⟩ := set_eq_ok_iff.mp hset
  exact hk

theorem usable_run (h : e.config.Usable) (updates : List (String × String)) :
    (e.run updates).config.Usable := by
  apply run_induction (P := fun e => e.config.Usable) updates h
  intro e₁ e₂ key value hu hset
  obtain ⟨c, hc, -, rfl⟩ := set_eq_ok_iff.mp hset
  exact hu.set hc

/-- Whatever is set, in whatever order and with whatever outcome, the configuration is never left
with a part of an update, and it stays good for an analysis. -/
theorem steady_run (e : Engine) (updates : List (String × String)) : e.Steady updates := by
  constructor
  case registry => exact registry_run e updates
  case each => exact fun key value => Engine.updates (e.run updates) key value
  case known =>
    intro h
    rw [← registry_run e updates]
    exact known_run h updates
  case context =>
    intro h now
    rw [Config.exists_context_iff]
    apply usable_run
    obtain hdefault | ⟨text, htext⟩ := h
    · rw [hdefault]
      exact Config.usable_default
    · exact Config.usable_of_ofJson htext

def mixedUpdates : List (String × String) :=
  [("documentUrl", "about:srcdoc"), ("base-url", "nope"), ("adapter", " dom "),
    ("adapter", "jsdom"), ("includeValidation", "Off"), ("include_custom_validations", "maybe"),
    ("adapter", "  "), ("colour", "red")]

theorem steady_run_mixedUpdates :
    ((ofConfig {}).run mixedUpdates).config =
      { options := { validation := false }, documentUrl := some "about:srcdoc",
        adapter := some "dom" } ∧
      (∃ ctx, ((ofConfig {}).run mixedUpdates).config.context 0 = .ok ctx) ∧
      ((ofConfig {}).run mixedUpdates).set "adapter" "jsdom" =
        .error (.registry (.unknownAdapter "jsdom" ["dom", "rcdom"])) := by
  have h := steady_run (ofConfig {}) mixedUpdates
  have hconfig : ((ofConfig {}).run mixedUpdates).config =
      { options := { validation := false }, documentUrl := some "about:srcdoc",
        adapter := some "dom" } := by decide +kernel
  have hset : ((ofConfig {}).run mixedUpdates).config.set "adapter" "jsdom" =
      .ok { options := { validation := false }, documentUrl := some "about:srcdoc",
            adapter := some "jsdom" } := by decide +kernel
  refine ⟨hconfig, h.context (.inl rfl) 0, ((h.each "adapter" "jsdom").fails_iff _).mpr ?_⟩
  have hnames : ((ofConfig {}).run mixedUpdates).registry.names = ["dom", "rcdom"] := by
    rw [h.registry]
    rfl
  rw [← hnames]
  exact .unregistered hset rfl (by rw [hnames]; decide)

end HeadAudit.Engine
