import HeadAudit.Proofs.Registry.Runs

namespace HeadAudit

theorem Viewer.report?_eq_none_iff {ctx : Context} {options : Options} {v : Viewer}
    {head : Subject} : v.report? ctx options head = none ↔ v.shape ≠ head.shape := by
  cases v <;> cases head <;> simp [report?, shape, Subject.shape]

namespace Registry

variable {r : Registry} {name : String} {entry : Registry.Entry}
  {front back entries : List Registry.Entry} {shape : Shape} {ctx : Context} {options : Options}
  {head : Subject}

theorem analyzeWith_of_not_mem (h : name ∉ r.names) :
    r.analyzeWith name ctx options head = .error (.unknownAdapter name r.names) := by
  rw [analyzeWith, find_of_not_mem h]
  rfl

theorem analyzeWith_of_ne (h : r.find name = .ok entry) (hs : entry.backend.shape ≠ head.shape) :
    r.analyzeWith name ctx options head = .error (.typeMismatch name head.shape.name) := by
  have hn : entry.backend.report? ctx options head = none := Viewer.report?_eq_none_iff.mpr hs
  rw [analyzeWith, h]
  dsimp only [bind, Except.bind]
  rw [hn]
  rfl

theorem analyzeWith_of_report? (h : r.find name = .ok entry) {report : Report}
    (hr : entry.backend.report? ctx options head = some report) :
    r.analyzeWith name ctx options head = .ok report := by
  rw [analyzeWith, h]
  dsimp only [bind, Except.bind]
  rw [hr]
  rfl

theorem exists_report? (ctx : Context) (options : Options)
    (hs : entry.backend.shape = head.shape) :
    ∃ report, entry.backend.report? ctx options head = some report := by
  cases hr : entry.backend.report? ctx options head with
  | none => exact absurd hs (Viewer.report?_eq_none_iff.mp hr)
  | some report => exact ⟨report, rfl⟩

theorem exists_report (h : r.find name = .ok entry) (hs : entry.backend.shape = head.shape) :
    ∃ report, r.analyzeWith name ctx options head = .ok report := by
  obtain ⟨report, hr⟩ := exists_report? ctx options hs
  exact ⟨report, analyzeWith_of_report? h hr⟩

theorem mem_names_of_find (h : r.find name = .ok entry) : name ∈ r.names := by
  by_contra hn
  rw [find_of_not_mem hn] at h
  cases h

def candidates (entries : List Entry) : List (String × Shape) :=
  entries.map fun e => (e.name, e.backend.shape)

theorem message_unknownShape (shape : Shape) (entries : List Entry) :
    (RegistryError.unknownShape shape (candidates entries)).message =
      s!"No registered adapter handles nodes of type `{shape.name}`; candidates: " ++
        ", ".intercalate (entries.map fun e => s!"{e.name} ({e.backend.shape.name})") := by
  unfold RegistryError.message candidates
  dsimp only
  rw [List.map_map, Function.comp_def]

theorem detect_of_none (h : ∀ e ∈ r.entries, e.backend.shape ≠ shape) :
    r.detect shape = .error (.unknownShape shape (candidates r.entries)) := by
  have hn : r.entries.find? (·.backend.shape == shape) = none :=
    List.find?_eq_none.mpr fun e he => by simpa using h e he
  rw [detect, hn]
  rfl

theorem detect_of_first (h : r.entries = front ++ entry :: back)
    (hf : ∀ e ∈ front, e.backend.shape ≠ shape) (hs : entry.backend.shape = shape) :
    r.detect shape = .ok entry.name := by
  have hfirst : r.entries.find? (·.backend.shape == shape) = some entry := by
    rw [List.find?_eq_some_iff_append]
    exact ⟨beq_iff_eq.mpr hs, front, back, h, fun e he => by simpa using hf e he⟩
  rw [detect, hfirst]

theorem analyze_of_none (h : ∀ e ∈ r.entries, e.backend.shape ≠ head.shape) :
    r.analyze ctx options head =
      .error (.unknownShape head.shape (candidates r.entries)) := by
  rw [analyze, detect_of_none h]
  rfl

/-- The name of the first entry for a type leads back to this entry. -/
theorem analyze_of_first (hn : r.names.Nodup) (h : r.entries = front ++ entry :: back)
    (hf : ∀ e ∈ front, e.backend.shape ≠ head.shape) (hs : entry.backend.shape = head.shape) :
    ∃ report, entry.backend.report? ctx options head = some report ∧
      r.analyze ctx options head = .ok report := by
  have hmem : entry ∈ r.entries := h ▸ List.mem_append_right front List.mem_cons_self
  obtain ⟨report, hr⟩ := exists_report? ctx options hs
  refine ⟨report, hr, ?_⟩
  rw [analyze, detect_of_first h hf hs]
  exact analyzeWith_of_report? (find_of_mem hn hmem) hr

theorem exists_first (h : entry ∈ entries) (hs : entry.backend.shape = shape) :
    ∃ front e back, entries = front ++ e :: back ∧ (∀ e' ∈ front, e'.backend.shape ≠ shape) ∧
      e.backend.shape = shape := by
  have hsome : (entries.find? (·.backend.shape == shape)).isSome := by
    rw [List.find?_isSome]
    exact ⟨entry, h, beq_iff_eq.mpr hs⟩
  obtain ⟨e, he⟩ := Option.isSome_iff_exists.mp hsome
  obtain ⟨hes, front, back, hsplit, hf⟩ := List.find?_eq_some_iff_append.mp he
  exact ⟨front, e, back, hsplit, fun e' he' => by simpa using hf e' he', beq_iff_eq.mp hes⟩

/-- What comes of an analysis by the type of a head, in a registry with these entries. -/
structure Dispatches (r : Registry) (entries : List Entry) (ctx : Context) (options : Options)
    (head : Subject) : Prop where
  holds : r.entries = entries
  fails_iff : (∃ error, r.analyze ctx options head = .error error) ↔
    ∀ e ∈ entries, e.backend.shape ≠ head.shape
  error : ∀ error, r.analyze ctx options head = .error error →
    error = .unknownShape head.shape (candidates entries)
  message : ∀ error, r.analyze ctx options head = .error error → error.message =
    s!"No registered adapter handles nodes of type `{head.shape.name}`; candidates: " ++
      ", ".intercalate (entries.map fun e => s!"{e.name} ({e.backend.shape.name})")
  first : ∀ front e back, entries = front ++ e :: back →
    (∀ e' ∈ front, e'.backend.shape ≠ head.shape) → e.backend.shape = head.shape →
    ∃ report, e.backend.report? ctx options head = some report ∧
      r.analyze ctx options head = .ok report

theorem dispatches_of_nodup (hn : r.names.Nodup) (ctx : Context) (options : Options)
    (head : Subject) : r.Dispatches r.entries ctx options head := by
  have hfails : (∃ error, r.analyze ctx options head = .error error) ↔
      ∀ e ∈ r.entries, e.backend.shape ≠ head.shape := by
    constructor
    · rintro ⟨error, herror⟩ e he hs
      obtain ⟨front, first, back, h, hf, hfirst⟩ := exists_first he hs
      obtain ⟨report, -, hok⟩ := analyze_of_first hn h hf hfirst
      exact absurd (herror.symm.trans hok) nofun
    · exact fun h => ⟨_, analyze_of_none h⟩
  have herror : ∀ error, r.analyze ctx options head = .error error →
      error = .unknownShape head.shape (candidates r.entries) := by
    intro error h
    exact Except.error.inj (h.symm.trans (analyze_of_none (hfails.mp ⟨error, h⟩)))
  constructor
  case holds => rfl
  case fails_iff => exact hfails
  case error => exact herror
  case message =>
    intro error h
    obtain rfl := herror error h
    exact message_unknownShape head.shape r.entries
  case first => exact fun _ _ _ => analyze_of_first hn

/-- Whatever is registered and taken out, a head is analyzed by what was registered first for its
type among all that is left, or by none if nothing is. -/
theorem dispatches_run (calls : List Call) (ctx : Context) (options : Options) (head : Subject) :
    (empty.run calls).Dispatches (empty.hosted calls) ctx options head ∧
      (withBuiltins.run calls).Dispatches (withBuiltins.entries ++ withBuiltins.hosted calls)
        ctx options head := by
  have hempty : empty.names.Nodup := List.nodup_nil
  constructor
  · rw [show empty.hosted calls = (empty.run calls).entries from (entries_run hempty calls).symm]
    exact dispatches_of_nodup (nodup_run hempty calls) ctx options head
  · rw [← entries_withBuiltins_run]
    exact dispatches_of_nodup (nodup_run nodup_withBuiltins calls) ctx options head

end Registry

end HeadAudit
