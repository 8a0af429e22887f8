import HeadAudit.Config
import HeadAudit.Live.OfMarkup
import HeadAudit.Markup.Page
import HeadAudit.Registry

namespace HeadAudit

inductive EngineError where
  | config (e : ConfigError)
  | registry (e : RegistryError)
  | read (e : Markup.ReadError)
  | edit (e : Live.EditError)

def EngineError.message : EngineError → String
  | .config e => e.message
  | .registry e => e.message
  | .read e => e.message
  | .edit e => "Failed to build live tree: " ++ e.message

structure Engine where
  config : Config
  registry : Registry

namespace Engine

def version : String := "0.1.0"

def ofConfig (config : Config) : Engine := { config, registry := .withBuiltins }

def checkAdapter (r : Registry) (c : Config) : Except EngineError Unit :=
  match c.adapter with
  | some name => (r.check name).mapError .registry
  | none => .ok ()

def ofConfig? (config : Config) : Except EngineError Engine := do
  let e := ofConfig config
  checkAdapter e.registry config
  return e

def set (e : Engine) (key value : String) : Except EngineError Engine := do
  let config ← (e.config.set key value).mapError .config
  checkAdapter e.registry config
  return { e with config }

def context (e : Engine) (now : Int) : Except EngineError Context :=
  (e.config.context now).mapError .config

def liveCopy (page : Markup.Page) : Except EngineError Live.Document :=
  (Live.Document.ofMarkup 0 page.document).mapError .edit

def liveHead (d : Live.Document) : Subject := .live d.tree d.head

/-- Analyze the head of a page with an adapter of the host: as a parsed head, or as a live one if
the adapter does not take that. -/
def analyzeAs (e : Engine) (name : String) (ctx : Context) (page : Markup.Page) :
    Except EngineError Report := do
  let analyze (head : Subject) := e.registry.analyzeWith name ctx e.config.options head
  let head ← page.requireHead.mapError .read
  match analyze (.parsed page.document head) with
  | .error (.typeMismatch ..) => do
    let live ← liveCopy page
    (analyze (liveHead live)).mapError .registry
  | result => result.mapError .registry

def analyzePage (e : Engine) (now : Int) (page : Markup.Page) : Except EngineError Report := do
  let ctx ← e.context now
  let name := e.config.adapter.getD Markup.adapterName
  if name == Markup.adapterName then
    let head ← page.requireHead.mapError .read
    return Report.run page.adapter ctx e.config.options head
  else if name == Live.adapterName then
    let live ← liveCopy page
    return Report.run live.tree.adapter ctx e.config.options live.head
  else e.analyzeAs name ctx page

def analyzeHtml (e : Engine) (now : Int) (html : String) : Except EngineError Report :=
  e.analyzePage now (.parse html)

def analyzeBytes (e : Engine) (now : Int) (bytes : List UInt8) : Except EngineError Report := do
  e.analyzePage now (← (Markup.Page.ofBytes bytes).mapError .read)

def reanalyze (e : Engine) (now : Int) (d : Live.Document) :
    Except EngineError (Analysis Live.NodeId) := do
  return Analysis.run d.tree.adapter (← e.context now) e.config.options d.head

def analyzeLiveHtml (e : Engine) (now : Int) (key : Nat) (html : String) :
    Except EngineError (Live.Document × Analysis Live.NodeId) := do
  let d ← (Live.Document.ofMarkup key (.parse html)).mapError .edit
  return (d, ← e.reanalyze now d)

def analyzeNode (e : Engine) (now : Int) (head : Subject) : Except EngineError Report := do
  let ctx ← e.context now
  (e.registry.analyze ctx e.config.options head).mapError .registry

end Engine

end HeadAudit
