import Mathlib
import HeadAudit.Registry.Steps
import HeadAudit.Proofs.Steps

namespace HeadAudit.Registry

inductive Call where
  | register (name : String) (backend : Backend)
  | unregister (name : String)

def call (r : Registry) : Call → Except RegistryError Registry
  | .register name backend => r.register name backend
  | .unregister name => r.unregister name

def Call.steps : Call → Steps Unit
  | .register name backend => Steps.register name backend
  | .unregister name => Steps.unregister name

/-- The registry that a call leaves behind, also where one of its steps is refused. -/
def apply (r : Registry) (c : Call) : Registry := stateAfter c.steps r

def run (r : Registry) (calls : List Call) : Registry := calls.foldl apply r

def Accepts (r : Registry) (name : String) (backend : Backend) : Prop :=
  name ∉ r.names ∧ ∀ c ∈ Capability.required, c ∈ backend.capabilities

instance (r : Registry) (name : String) (backend : Backend) : Decidable (r.Accepts name backend) :=
  inferInstanceAs (Decidable (_ ∧ _))

def added (r : Registry) : Call → List Entry
  | .register name backend => if r.Accepts name backend then [⟨name, false, backend⟩] else []
  | .unregister _ => []

def Call.spares (name : String) : Call → Bool
  | .register .. => true
  | .unregister other => other != name

/-- What the calls of a run register and none of them takes out later. -/
def hosted (r : Registry) : List Call → List Entry
  | [] => []
  | c :: calls =>
    (r.added c).filter (fun e => calls.all (·.spares e.name)) ++ hosted (r.apply c) calls

variable {r r' : Registry} {name type : String} {backend : Backend} {e : Registry.Entry}
  {more : List Registry.Entry}

theorem contains_iff : r.contains name ↔ name ∈ r.names := by
  rw [contains, names, List.any_eq_true, List.mem_map]
  simp only [beq_iff_eq]

theorem find_of_not_mem (h : name ∉ r.names) :
    r.find name = .error (.unknownAdapter name r.names) := by
  have hn : r.entries.find? (·.name == name) = none := by
    rw [List.find?_eq_none]
    intro e he hen
    exact h (List.mem_map.mpr ⟨e, he, beq_iff_eq.mp hen⟩)
  rw [find, hn]

theorem exists_find (h : name ∈ r.names) :
    ∃ e ∈ r.entries, e.name = name ∧ r.find name = .ok e := by
  obtain ⟨e', he', hname'⟩ := List.mem_map.mp h
  have hs : (r.entries.find? (·.name == name)).isSome := by
    rw [List.find?_isSome]
    exact ⟨e', he', beq_iff_eq.mpr hname'⟩
  obtain ⟨e, he⟩ := Option.isSome_iff_exists.mp hs
  have hname := List.find?_some he
  refine ⟨e, List.mem_of_find?_eq_some he, beq_iff_eq.mp hname, ?_⟩
  rw [find, he]

theorem find_of_mem (hn : r.names.Nodup) (he : e ∈ r.entries) : r.find e.name = .ok e := by
  obtain ⟨e', he', hname, hf⟩ := exists_find (r := r) (List.mem_map_of_mem he)
  rw [hf, List.inj_on_of_nodup_map hn he' he hname]

theorem create_of_find (h : r.find name = .ok e) : r.create name type =
    if e.backend.type = type then .ok e.backend else .error (.typeMismatch name type) := by
  rw [create, h]
  by_cases ht : e.backend.type = type <;> simp [bind, Except.bind, pure, Except.pure, ht]
  rfl

theorem register_eq_ok_iff : r.register name backend = .ok r' ↔
    r.Accepts name backend ∧ r' = ⟨r.entries ++ [⟨name, false, backend⟩]⟩ := by
  rw [register, Accepts, ← contains_iff, ← Capability.missing?_eq_none_iff,
    Backend.missingCapability?]
  cases r.contains name with
  | true => simp
  | false => cases Capability.missing? backend.capabilities <;> simp [eq_comm]

theorem eraseP_eq_filter {entries : List Entry} (hn : (entries.map (·.name)).Nodup) :
    entries.eraseP (·.name == name) = entries.filter (name != ·.name) := by
  induction entries with
  | nil => rfl
  | cons e entries ih =>
    rw [List.map_cons, List.nodup_cons] at hn
    by_cases he : e.name = name
    · have hrest : ∀ x ∈ entries, (name != x.name) = true := fun x hx => by
        rw [bne_iff_ne]
        rintro rfl
        exact hn.1 (he ▸ List.mem_map_of_mem hx)
      rw [List.eraseP_cons_of_pos (by simp [he]), List.filter_cons_of_neg (by simp [he]),
        List.filter_eq_self.mpr hrest]
    · rw [List.eraseP_cons_of_neg (by simp [he]), List.filter_cons_of_pos (by simp [Ne.symm he]),
        ih hn.2]

theorem unregister_of_not_mem (h : name ∉ r.names) :
    r.unregister name = .error (.unknownAdapter name r.names) := by
  rw [unregister, find_of_not_mem h]
  rfl

theorem unregister_of_find (h : r.find name = .ok e) : r.unregister name =
    if e.builtin then .error (.builtinRemoval name)
    else .ok ⟨r.entries.eraseP (·.name == name)⟩ := by
  rw [unregister, h]
  cases hb : e.builtin <;> simp [bind, Except.bind, pure, Except.pure, hb]
  rfl

theorem unregister_of_mem (hn : r.names.Nodup) (he : e ∈ r.entries) : r.unregister e.name =
    if e.builtin then .error (.builtinRemoval e.name)
    else .ok ⟨r.entries.filter (e.name != ·.name)⟩ := by
  rw [unregister_of_find (find_of_mem hn he), eraseP_eq_filter hn]

theorem Steps.run_register : (Steps.register name backend).run r =
    settled r ((r.register name backend).map (·, ())) := by
  rw [Steps.register, run_bind_of_ok (EStateM.run_get r), Registry.register]
  cases r.contains name with
  | true => exact run_bind_of_error (run_refuseIf_of_true rfl)
  | false =>
    rw [run_bind_of_ok (run_refuseIf_of_false rfl)]
    cases backend.missingCapability? <;> rfl

theorem Steps.run_unregister : (Steps.unregister name).run r =
    settled r ((r.unregister name).map (·, ())) := by
  rw [Steps.unregister, run_bind_of_ok (EStateM.run_get r)]
  cases hi : r.entries.findFinIdx? (·.name == name) with
  | none =>
    have hf : r.find name = .error (.unknownAdapter name r.names) := by
      rw [find, List.find?_eq_map_findFinIdx?_getElem, hi]
      rfl
    rw [Registry.unregister, hf]
    rfl
  | some index =>
    have hf : r.find name = .ok r.entries[index] := by
      rw [find, List.find?_eq_map_findFinIdx?_getElem, hi]
      rfl
    have herase : r.entries.eraseP (·.name == name) = r.entries.eraseIdx index := by
      rw [List.eraseP_eq_eraseIdx, List.findIdx?_eq_map_findFinIdx?_val, hi]
      rfl
    rw [unregister_of_find hf, herase]
    dsimp only
    cases r.entries[index].builtin with
    | true => exact run_bind_of_error (run_refuseIf_of_true rfl)
    | false => exact run_bind_of_ok (run_refuseIf_of_false rfl)

/-- A call is made as a whole or not at all. -/
theorem run_steps (r : Registry) (c : Call) :
    c.steps.run r = settled r ((r.call c).map (·, ())) := by
  cases c with
  | register name backend => exact Steps.run_register
  | unregister name => exact Steps.run_unregister

theorem apply_of_ok {c : Call} (h : r.call c = .ok r') : r.apply c = r' := by
  rw [apply, stateAfter_of_settled (run_steps r c), h]
  rfl

theorem apply_of_error {c : Call} {error : RegistryError} (h : r.call c = .error error) :
    r.apply c = r := by
  rw [apply, stateAfter_of_settled (run_steps r c), h]
  rfl

theorem spares_unregister (h : e.name ≠ name) : (Call.unregister name).spares e.name = true :=
  bne_iff_ne.mpr h.symm

theorem entries_apply (hn : r.names.Nodup) (c : Call) : (r.apply c).entries =
    r.entries.filter (fun e => e.builtin || c.spares e.name) ++ r.added c := by
  cases c with
  | register name backend =>
    rw [List.filter_eq_self.mpr fun e _ => Bool.or_true e.builtin, added]
    split
    · next ha => rw [apply_of_ok (c := .register name backend) (register_eq_ok_iff.mpr ⟨ha, rfl⟩)]
    · next ha =>
      rw [List.append_nil]
      cases hr : r.call (.register name backend) with
      | ok r' => exact absurd (register_eq_ok_iff.mp hr).1 ha
      | error error => rw [apply_of_error hr]
  | unregister name =>
    rw [show r.added (.unregister name) = [] from rfl, List.append_nil]
    by_cases hname : name ∈ r.names
    · obtain ⟨e, he, rfl⟩ := List.mem_map.mp hname
      -- Names are distinct, so no other entry goes along.
      have hsame : ∀ x ∈ r.entries, x.name = e.name → x.builtin = e.builtin := fun x hx hxe => by
        rw [List.inj_on_of_nodup_map hn hx he hxe]
      have hcall := unregister_of_mem hn he
      cases hb : e.builtin with
      | true =>
        rw [hb, if_pos rfl] at hcall
        rw [apply_of_error (c := .unregister e.name) hcall, List.filter_eq_self.mpr]
        · intro x hx
          by_cases hxe : x.name = e.name
          · rw [hsame x hx hxe, hb, Bool.true_or]
          · rw [spares_unregister hxe, Bool.or_true]
      | false =>
        rw [hb, if_neg Bool.false_ne_true] at hcall
        rw [apply_of_ok (c := .unregister e.name) hcall]
        apply List.filter_congr
        intro x hx
        by_cases hxe : x.name = e.name
        · rw [hsame x hx hxe, hb, Bool.false_or, Call.spares]
        · rw [spares_unregister hxe, Bool.or_true]
          exact bne_iff_ne.mpr (Ne.symm hxe)
    · rw [apply_of_error (c := .unregister name) (unregister_of_not_mem hname),
        List.filter_eq_self.mpr]
      · intro x hx
        have hne : x.name ≠ name := by
          rintro rfl
          exact hname (List.mem_map_of_mem hx)
        rw [spares_unregister hne, Bool.or_true]

theorem nodup_apply (hn : r.names.Nodup) (c : Call) : (r.apply c).names.Nodup := by
  have hkept : ((r.entries.filter fun e => e.builtin || c.spares e.name).map (·.name)).Sublist
      r.names := List.filter_sublist.map _
  rw [names, entries_apply hn, List.map_append]
  cases c with
  | register name backend =>
    rw [added]
    split
    · next ha =>
      rw [List.nodup_append_comm]
      exact List.nodup_cons.mpr ⟨fun hm => ha.1 (hkept.subset hm), hn.sublist hkept⟩
    · exact (List.append_nil _).symm ▸ hn.sublist hkept
  | unregister name => exact (List.append_nil _).symm ▸ hn.sublist hkept

theorem nodup_run (hn : r.names.Nodup) (calls : List Call) : (r.run calls).names.Nodup := by
  induction calls generalizing r with
  | nil => exact hn
  | cons c calls ih => exact ih (nodup_apply hn c)

theorem accepted_of_mem_added {c : Call} (he : e ∈ r.added c) :
    e.builtin = false ∧ ∀ c ∈ Capability.required, c ∈ e.backend.capabilities := by
  cases c with
  | register name backend =>
    rw [added] at he
    split at he
    · next ha =>
      rw [List.mem_singleton.mp he]
      exact ⟨rfl, ha.2⟩
    · exact absurd he List.not_mem_nil
  | unregister name => exact absurd he List.not_mem_nil

theorem accepted_of_mem_hosted {calls : List Call} (he : e ∈ r.hosted calls) :
    e.builtin = false ∧ ∀ c ∈ Capability.required, c ∈ e.backend.capabilities := by
  induction calls generalizing r with
  | nil => exact absurd he List.not_mem_nil
  | cons c calls ih =>
    rcases List.mem_append.mp he with he | he
    · exact accepted_of_mem_added (List.mem_of_mem_filter he)
    · exact ih he

/-- A run keeps what is built in and what all calls spare, and behind that stands what the calls
registered, in their order. -/
theorem entries_run (hn : r.names.Nodup) (calls : List Call) : (r.run calls).entries =
    r.entries.filter (fun e => e.builtin || calls.all (·.spares e.name)) ++ r.hosted calls := by
  induction calls generalizing r with
  | nil => simp [hosted, run]
  | cons c calls ih =>
    have hnew : (r.added c).filter (fun e => e.builtin || calls.all (·.spares e.name)) =
        (r.added c).filter (fun e => calls.all (·.spares e.name)) :=
      List.filter_congr fun e he => by rw [(accepted_of_mem_added he).1, Bool.false_or]
    have hrest := ih (nodup_apply hn c)
    rw [entries_apply hn, List.filter_append, List.filter_filter, hnew, List.append_assoc] at hrest
    rw [run, List.foldl_cons, ← run, hrest, hosted]
    congr 1
    apply List.filter_congr
    intro e _
    rw [List.all_cons, Bool.or_and_distrib_left, Bool.and_comm]

theorem nodup_withBuiltins : withBuiltins.names.Nodup := by decide

structure Kept (r : Registry) (more : List Entry) : Prop where
  entries : r.entries = withBuiltins.entries ++ more
  nodup : r.names.Nodup
  ofHost : ∀ e ∈ more, e.builtin = false ∧ ∀ c ∈ Capability.required, c ∈ e.backend.capabilities

theorem builtin_of_mem (h : e ∈ withBuiltins.entries) : e.builtin := by
  rw [withBuiltins, List.mem_pair] at h
  rcases h with rfl | rfl <;> rfl

theorem Kept.mem_iff (h : r.Kept more) : e ∈ more ↔ e ∈ r.entries ∧ e.builtin = false := by
  rw [h.entries, List.mem_append]
  constructor
  · exact fun he => ⟨.inr he, (h.ofHost e he).1⟩
  · rintro ⟨he | he, hb⟩
    · exact absurd (builtin_of_mem he) (by simp [hb])
    · exact he

theorem entries_withBuiltins_run (calls : List Call) :
    (withBuiltins.run calls).entries = withBuiltins.entries ++ withBuiltins.hosted calls := by
  rw [entries_run nodup_withBuiltins, List.filter_eq_self.mpr]
  intro e he
  rw [builtin_of_mem he, Bool.true_or]

theorem kept_run (calls : List Call) :
    (withBuiltins.run calls).Kept (withBuiltins.hosted calls) where
  entries := entries_withBuiltins_run calls
  nodup := nodup_run nodup_withBuiltins calls
  ofHost := fun _ => accepted_of_mem_hosted

/-- A registry in which names are distinct and the same everywhere, built-in entries come first and
stay, and all others were accepted. -/
structure Orderly (r : Registry) (more : List Entry) : Prop extends Kept r more where
  refused : ∀ c error, r.call c = .error error → r.apply c = r
  registers : ∀ name backend, (∃ r', r.register name backend = .ok r') ↔ r.Accepts name backend
  unregisters : ∀ name, (∃ r', r.unregister name = .ok r') ↔ name ∈ more.map (·.name)
  restored : ∀ {name backend r'}, r.register name backend = .ok r' → r'.unregister name = .ok r
  known : ∀ {name}, name ∈ r.names → r.contains name ∧ r.check name = .ok () ∧
    ∃ backend, ∀ type, r.create name type =
      if backend.type = type then .ok backend else .error (.typeMismatch name type)
  unknown : ∀ {name}, name ∉ r.names → r.contains name = false ∧
    r.check name = .error (.unknownAdapter name r.names) ∧
    ∀ type, r.create name type = .error (.unknownAdapter name r.names)

theorem Kept.unregister_register (h : r.Kept more) (hr : r.register name backend = .ok r') :
    r'.unregister name = .ok r := by
  obtain ⟨ha, rfl⟩ := register_eq_ok_iff.mp hr
  have he : (⟨name, false, backend⟩ : Entry) ∈ r.entries ++ [⟨name, false, backend⟩] :=
    List.mem_append_right _ (List.mem_singleton_self _)
  have hrest : r.entries.filter (name != ·.name) = r.entries := by
    rw [List.filter_eq_self]
    intro x hx
    rw [bne_iff_ne]
    rintro rfl
    exact ha.1 (List.mem_map_of_mem hx)
  have hn := nodup_apply h.nodup (.register name backend)
  rw [apply_of_ok (c := .register name backend) hr] at hn
  have hu := unregister_of_mem hn he
  rw [if_neg Bool.false_ne_true] at hu
  rw [hu, List.filter_append, hrest, List.filter_cons_of_neg (by simp), List.filter_nil,
    List.append_nil]

theorem Kept.unregister_isOk_iff (h : r.Kept more) :
    (∃ r', r.unregister name = .ok r') ↔ name ∈ more.map (·.name) := by
  constructor
  · rintro ⟨r', hr⟩
    by_cases hname : name ∈ r.names
    · obtain ⟨e, he, rfl⟩ := List.mem_map.mp hname
      rw [unregister_of_mem h.nodup he] at hr
      split at hr
      · cases hr
      · next hb => exact List.mem_map_of_mem (h.mem_iff.mpr ⟨he, Bool.not_eq_true _ ▸ hb⟩)
    · rw [unregister_of_not_mem hname] at hr
      cases hr
  · intro hname
    obtain ⟨e, he, rfl⟩ := List.mem_map.mp hname
    obtain ⟨he, hb⟩ := h.mem_iff.mp he
    rw [unregister_of_mem h.nodup he, hb]
    exact ⟨_, rfl⟩

theorem known_of_mem (h : name ∈ r.names) : r.contains name ∧ r.check name = .ok () ∧
    ∃ backend, ∀ type, r.create name type =
      if backend.type = type then .ok backend else .error (.typeMismatch name type) := by
  obtain ⟨e, -, -, hf⟩ := exists_find h
  refine ⟨contains_iff.mpr h, ?_, e.backend, fun type => create_of_find hf⟩
  rw [check, hf]
  rfl

theorem unknown_of_not_mem (h : name ∉ r.names) : r.contains name = false ∧
    r.check name = .error (.unknownAdapter name r.names) ∧
    ∀ type, r.create name type = .error (.unknownAdapter name r.names) := by
  refine ⟨?_, ?_, fun type => ?_⟩
  · rwa [← Bool.not_eq_true, contains_iff]
  · rw [check, find_of_not_mem h]
    rfl
  · rw [create, find_of_not_mem h]
    rfl

/-- Whatever is registered and taken out, the registry stays in order. -/
theorem orderly_run (calls : List Call) :
    (withBuiltins.run calls).Orderly (withBuiltins.hosted calls) := by
  have h := kept_run calls
  generalize withBuiltins.run calls = r at h
  constructor
  case toKept => exact h
  case refused => exact fun c error hc => apply_of_error hc
  case registers =>
    intro name backend
    constructor
    · rintro ⟨r', hr⟩
      exact (register_eq_ok_iff.mp hr).1
    · exact fun ha => ⟨_, register_eq_ok_iff.mpr ⟨ha, rfl⟩⟩
  case unregisters => exact fun _ => h.unregister_isOk_iff
  case restored => exact h.unregister_register
  case known => exact known_of_mem
  case unknown => exact unknown_of_not_mem

end HeadAudit.Registry
