import HeadAudit.Engine
import HeadAudit.Proofs.Live.Total
import HeadAudit.Proofs.Markup.Heading
import HeadAudit.Proofs.Parity.Roots
import HeadAudit.Proofs.Registry.Dispatch
import HeadAudit.Proofs.Report.Located

namespace HeadAudit

namespace Registry

variable {r : Registry} {entry : Registry.Entry} {more : List Registry.Entry}

theorem Kept.find_builtin (h : r.Kept more) (he : entry ∈ withBuiltins.entries) :
    r.find entry.name = .ok entry := by
  apply find_of_mem h.nodup
  rw [h.entries]
  exact List.mem_append_left _ he

end Registry

namespace Engine

variable {e : Engine} {now : Int} {ctx : Context} {page : Markup.Page}
  {result : Except EngineError Report} {entry : Registry.Entry} {report : Report}

def adapterName (e : Engine) : String := e.config.adapter.getD Markup.adapterName

def registered (e : Engine) (ctx : Context) (head : Subject) : Except RegistryError Report :=
  e.registry.analyzeWith e.adapterName ctx e.config.options head

def childLocation (page : Markup.Page) (i : Nat) : Option Location :=
  (page.adapter.children page.head)[i]?.bind page.adapter.location

/-- The built-in adapter of parsed documents is asked for locations, too. -/
def completed (e : Engine) (page : Markup.Page) (report : Report) : Report :=
  if e.adapterName = Markup.adapterName then report.locate (childLocation page) else report

/-- The result of an engine on a page is that of its registry on the parsed head, or on the head of
the live copy. -/
structure Agrees (e : Engine) (ctx : Context) (page : Markup.Page)
    (result : Except EngineError Report) : Prop where
  unknown_iff : (∃ name known, result = .error (.registry (.unknownAdapter name known))) ↔
    e.adapterName ∉ e.registry.names
  mismatch_iff : (∃ name type, result = .error (.registry (.typeMismatch name type))) ↔
    ∃ entry, e.registry.find e.adapterName = .ok entry ∧
      entry.backend.shape ≠ .parsed ∧ entry.backend.shape ≠ .live
  parsed : ∀ entry, e.registry.find e.adapterName = .ok entry → entry.backend.shape = .parsed →
    ∃ report, e.registered ctx (.parsed page.document page.head) = .ok report ∧
      result = .ok (e.completed page report)
  live : ∀ entry, e.registry.find e.adapterName = .ok entry → entry.backend.shape = .live →
    ∃ live report, liveCopy page = .ok live ∧ e.registered ctx (liveHead live) = .ok report ∧
      result = .ok report

theorem Agrees.of_unknown (hn : e.adapterName ∉ e.registry.names)
    (h : result = .error (.registry (.unknownAdapter e.adapterName e.registry.names))) :
    e.Agrees ctx page result := by
  have hf : ∀ entry, e.registry.find e.adapterName ≠ .ok entry := fun entry hf =>
    hn (Registry.mem_names_of_find hf)
  constructor
  case unknown_iff => exact ⟨fun _ => hn, fun _ => ⟨_, _, h⟩⟩
  case mismatch_iff =>
    constructor
    · rintro ⟨name, type, ht⟩
      rw [h] at ht
      cases ht
    · rintro ⟨entry, hentry, -⟩
      exact absurd hentry (hf entry)
  case parsed => exact fun entry hentry => absurd hentry (hf entry)
  case live => exact fun entry hentry => absurd hentry (hf entry)

theorem Agrees.of_find (hf : e.registry.find e.adapterName = .ok entry)
    (hu : ∀ name known, result ≠ .error (.registry (.unknownAdapter name known)))
    (hm : (∃ name type, result = .error (.registry (.typeMismatch name type))) ↔
      entry.backend.shape ≠ .parsed ∧ entry.backend.shape ≠ .live)
    (hp : entry.backend.shape = .parsed → ∃ report,
      e.registered ctx (.parsed page.document page.head) = .ok report ∧
        result = .ok (e.completed page report))
    (hl : entry.backend.shape = .live → ∃ live report, liveCopy page = .ok live ∧
      e.registered ctx (liveHead live) = .ok report ∧ result = .ok report) :
    e.Agrees ctx page result := by
  have hentry : ∀ entry', e.registry.find e.adapterName = .ok entry' → entry' = entry :=
    fun entry' hf' => Except.ok.inj (hf'.symm.trans hf)
  constructor
  case unknown_iff =>
    constructor
    · rintro ⟨name, known, h⟩
      exact absurd h (hu name known)
    · exact fun hn => absurd (Registry.mem_names_of_find hf) hn
  case mismatch_iff =>
    rw [hm]
    constructor
    · exact fun hs => ⟨entry, hf, hs⟩
    · rintro ⟨entry', hf', hs⟩
      rwa [hentry entry' hf'] at hs
  case parsed => exact fun entry' hf' hs => hp (hentry entry' hf' ▸ hs)
  case live => exact fun entry' hf' hs => hl (hentry entry' hf' ▸ hs)

theorem Agrees.of_mismatch (hf : e.registry.find e.adapterName = .ok entry)
    (hp : entry.backend.shape ≠ .parsed) (hl : entry.backend.shape ≠ .live) {type : String}
    (h : result = .error (.registry (.typeMismatch e.adapterName type))) :
    e.Agrees ctx page result := by
  apply Agrees.of_find hf
  case hu =>
    intro name known
    rw [h]
    nofun
  case hm => exact ⟨fun _ => ⟨hp, hl⟩, fun _ => ⟨_, _, h⟩⟩
  case hp => exact fun hs => absurd hs hp
  case hl => exact fun hs => absurd hs hl

theorem Agrees.of_parsed (hf : e.registry.find e.adapterName = .ok entry)
    (hs : entry.backend.shape = .parsed)
    (hr : e.registered ctx (.parsed page.document page.head) = .ok report)
    (h : result = .ok (e.completed page report)) : e.Agrees ctx page result := by
  apply Agrees.of_find hf
  case hu =>
    intro name known
    rw [h]
    nofun
  case hm => simp [h, hs]
  case hp => exact fun _ => ⟨report, hr, h⟩
  case hl => simp [hs]

theorem Agrees.of_live (hf : e.registry.find e.adapterName = .ok entry)
    (hs : entry.backend.shape = .live) {live : Live.Document} (hlive : liveCopy page = .ok live)
    (hr : e.registered ctx (liveHead live) = .ok report) (h : result = .ok report) :
    e.Agrees ctx page result := by
  apply Agrees.of_find hf
  case hu =>
    intro name known
    rw [h]
    nofun
  case hm => simp [h, hs]
  case hp => simp [hs]
  case hl => exact fun _ => ⟨live, report, hlive, hr, h⟩

/-- A page of any size has a live copy, as the ids of its nodes do not wrap around. -/
theorem exists_liveCopy (page : Markup.Page) : ∃ live, liveCopy page = .ok live := by
  obtain ⟨live, h⟩ := Live.Document.exists_ofMarkup 0 page.document
  exact ⟨live, by rw [liveCopy, h]; rfl⟩

theorem analyzeAs_of_head (hh : page.requireHead = .ok page.head) (name : String) :
    e.analyzeAs name ctx page =
      match e.registry.analyzeWith name ctx e.config.options (.parsed page.document page.head) with
      | .error (.typeMismatch ..) => do
        let live ← liveCopy page
        (e.registry.analyzeWith name ctx e.config.options (liveHead live)).mapError .registry
      | result => result.mapError .registry := by
  rw [analyzeAs, hh]
  rfl

theorem agrees_analyzeAs (hp : e.adapterName ≠ Markup.adapterName)
    (hh : page.requireHead = .ok page.head) :
    e.Agrees ctx page (e.analyzeAs e.adapterName ctx page) := by
  by_cases hn : e.adapterName ∈ e.registry.names
  case neg =>
    apply Agrees.of_unknown hn
    rw [analyzeAs_of_head hh, Registry.analyzeWith_of_not_mem hn]
    rfl
  obtain ⟨entry, -, -, hf⟩ := Registry.exists_find hn
  by_cases hs : entry.backend.shape = .parsed
  · obtain ⟨r, hr⟩ : ∃ r, e.registered ctx (.parsed page.document page.head) = .ok r :=
      Registry.exists_report hf hs
    apply Agrees.of_parsed hf hs hr
    rw [completed, if_neg hp, analyzeAs_of_head hh, ← registered, hr]
    rfl
  -- Not a parsed head: the engine tries again with a live one.
  · have hfirst : e.registered ctx (.parsed page.document page.head) =
        .error (.typeMismatch e.adapterName Shape.parsed.name) := Registry.analyzeWith_of_ne hf hs
    obtain ⟨live, hlive⟩ := exists_liveCopy page
    have hagain : e.analyzeAs e.adapterName ctx page =
        (e.registered ctx (liveHead live)).mapError .registry := by
      rw [analyzeAs_of_head hh, ← registered, hfirst, hlive]
      rfl
    by_cases hs' : entry.backend.shape = .live
    · obtain ⟨r, hr⟩ : ∃ r, e.registered ctx (liveHead live) = .ok r :=
        Registry.exists_report hf hs'
      apply Agrees.of_live hf hs' hlive hr
      rw [hagain, hr]
      rfl
    · have hsecond : e.registered ctx (liveHead live) =
          .error (.typeMismatch e.adapterName Shape.live.name) := Registry.analyzeWith_of_ne hf hs'
      apply Agrees.of_mismatch hf hs hs'
      rw [hagain, hsecond]
      rfl

theorem context_eq (hc : e.config.context now = .ok ctx) : e.context now = .ok ctx := by
  rw [context, hc]
  rfl

theorem analyzePage_parsed (hc : e.config.context now = .ok ctx)
    (hn : e.adapterName = Markup.adapterName) (hh : page.requireHead = .ok page.head) :
    e.analyzePage now page =
      .ok (Report.run page.adapter ctx e.config.options page.head) := by
  rw [adapterName] at hn
  rw [analyzePage, context_eq hc, hn, hh]
  rfl

theorem analyzePage_live (hc : e.config.context now = .ok ctx)
    (hn : e.adapterName = Live.adapterName) {live : Live.Document}
    (hlive : liveCopy page = .ok live) : e.analyzePage now page =
      .ok (Report.run live.tree.adapter ctx e.config.options live.head) := by
  rw [adapterName] at hn
  rw [analyzePage, context_eq hc, hn, hlive]
  rfl

theorem analyzePage_of_ne (hc : e.config.context now = .ok ctx)
    (hp : e.adapterName ≠ Markup.adapterName) (hl : e.adapterName ≠ Live.adapterName) :
    e.analyzePage now page = e.analyzeAs e.adapterName ctx page := by
  rw [analyzePage, context_eq hc]
  simp only [bind, Except.bind]
  rw [if_neg (by simpa [adapterName] using hp), if_neg (by simpa [adapterName] using hl)]
  rfl

theorem run_page (page : Markup.Page) (ctx : Context) (options : Options) :
    Report.run page.adapter ctx options page.head =
      (Report.run (page.document.adapter none) ctx options page.head).locate
        (childLocation page) := by
  have ha : page.adapter = (page.document.adapter none).withLocations page.adapter.location
      page.adapter.capabilities := rfl
  have hn : ((page.document.adapter none).children page.head).Nodup :=
    Markup.Document.nodup_children _ _
  rw [ha, Report.run_withLocations _ hn]
  rfl

theorem agrees_parsed {more : List Registry.Entry} (hk : e.registry.Kept more)
    (hc : e.config.context now = .ok ctx) (hn : e.adapterName = Markup.adapterName)
    (hh : page.requireHead = .ok page.head) : e.Agrees ctx page (e.analyzePage now page) := by
  let entry : Registry.Entry := ⟨Markup.adapterName, true, .parsed none⟩
  have hf : e.registry.find e.adapterName = .ok entry := by
    rw [hn]
    exact hk.find_builtin (List.mem_cons_of_mem _ (List.mem_singleton_self entry))
  have hr : e.registered ctx (.parsed page.document page.head) =
      .ok (Report.run (page.document.adapter none) ctx e.config.options page.head) :=
    Registry.analyzeWith_of_report? hf rfl
  apply Agrees.of_parsed hf rfl hr
  rw [completed, if_pos hn, analyzePage_parsed hc hn hh, run_page]

theorem agrees_live {more : List Registry.Entry} (hk : e.registry.Kept more)
    (hc : e.config.context now = .ok ctx) (hn : e.adapterName = Live.adapterName)
    (page : Markup.Page) : e.Agrees ctx page (e.analyzePage now page) := by
  let entry : Registry.Entry := ⟨Live.adapterName, true, .live⟩
  have hf : e.registry.find e.adapterName = .ok entry := by
    rw [hn]
    exact hk.find_builtin List.mem_cons_self
  obtain ⟨live, hlive⟩ := exists_liveCopy page
  have hr : e.registered ctx (liveHead live) =
      .ok (Report.run live.tree.adapter ctx e.config.options live.head) :=
    Registry.analyzeWith_of_report? hf rfl
  exact .of_live hf rfl hlive hr (analyzePage_live hc hn hlive)

/-- The registry decides what an engine does with markup, also for the adapters that the engine does
not look up. Without a configured adapter that is the one of parsed documents. -/
theorem agrees_analyzeHtml (e : Engine) (calls : List Registry.Call)
    (hr : e.registry = Registry.withBuiltins.run calls) (hc : e.config.context now = .ok ctx)
    (html : String) : e.Agrees ctx (.parse html) (e.analyzeHtml now html) ∧
      (e.config.adapter = none → e.analyzeHtml now html =
        { e with config.adapter := some Markup.adapterName }.analyzeHtml now html) := by
  have hk : e.registry.Kept (Registry.withBuiltins.hosted calls) := hr ▸ Registry.kept_run calls
  have hh := Markup.Page.requireHead_parse html
  constructor
  · by_cases hp : e.adapterName = Markup.adapterName
    · exact agrees_parsed hk hc hp hh
    by_cases hl : e.adapterName = Live.adapterName
    · exact agrees_live hk hc hl (.parse html)
    · rw [analyzeHtml, analyzePage_of_ne hc hp hl]
      exact agrees_analyzeAs hp hh
  · intro hn
    rw [analyzeHtml, analyzePage, hn]
    rfl

def previewCalls : List Registry.Call :=
  [.register "draft" (.parsed none),
    .register "preview" (.host "Preview" "preview" Capability.withLocation
      (.live Live.Tree.adapter)),
    .register Markup.adapterName .live, .unregister Live.adapterName, .unregister "draft"]

def previewEngine : Engine where
  config :=
    { documentUrl := some "about:srcdoc", baseUrl := some "file:///srv/page.html",
      adapter := some "preview" }
  registry := Registry.withBuiltins.run previewCalls

theorem agrees_analyzeHtml_preview :
    ∃ ctx, previewEngine.config.context 0 = .ok ctx ∧
      previewEngine.Agrees ctx (.parse "<title>A</title>")
        (previewEngine.analyzeHtml 0 "<title>A</title>") ∧
      (previewEngine.analyzeHtml 0 "<title>A</title>").toOption.map (·.weights.length) =
        some 1 := by
  have hs : (previewEngine.config.context 0).toOption.isSome := by decide +kernel
  cases hc : previewEngine.config.context 0 with
  | ok ctx =>
    exact ⟨ctx, rfl, (agrees_analyzeHtml previewEngine previewCalls rfl hc _).1, by decide +kernel⟩
  | error error =>
    rw [hc] at hs
    cases hs

end Engine

end HeadAudit
