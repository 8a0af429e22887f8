import HeadAudit.Analysis
import HeadAudit.Json.Value

namespace HeadAudit

structure Snapshot where
  index : Option Nat
  tag : String
  markup : String
  location : Option Location
  deriving DecidableEq

namespace Report

structure WeightEntry where
  element : Snapshot
  category : Category
  weight : Nat
  valid : Bool
  deriving DecidableEq

structure WarningEntry where
  message : String
  elements : List Snapshot
  deriving DecidableEq

structure FindingEntry where
  element : Snapshot
  warnings : List String
  payload : Option Payload
  deriving DecidableEq

structure ViolationEntry where
  index : Nat
  element : Snapshot
  previous : Snapshot
  weight : Nat
  previousWeight : Nat
  category : Category
  previousCategory : Category
  message : String
  deriving DecidableEq

end Report

structure Report where
  adapter : String
  weights : List Report.WeightEntry
  warnings : List Report.WarningEntry
  findings : List Report.FindingEntry
  violations : List Report.ViolationEntry
  deriving DecidableEq

namespace Report

variable {ν : Type} [DecidableEq ν]

def snapshot (a : Adapter ν) (children : List ν) (element : ν) : Snapshot where
  index := children.findIdx? (· = element)
  tag := a.tagName element
  markup := a.startTag element
  location := a.location element

def ofAnalysis (a : Adapter ν) (r : Analysis ν) : Report :=
  let describe := snapshot a (r.weights.map (·.element))
  { adapter := a.name
    weights := r.weights.map fun w =>
      { element := describe w.element, category := w.category, weight := w.weight,
        valid := !r.isFlagged w.element }
    warnings := r.warnings.map fun w =>
      { message := w.message, elements := w.elements.map describe }
    findings := r.examined.map fun e =>
      { element := describe e.element, warnings := e.finding.warnings,
        payload := e.finding.payload }
    violations := r.violations.map fun v =>
      { index := v.index, element := describe v.element, previous := describe v.previous,
        weight := v.weight, previousWeight := v.previousWeight, category := v.category,
        previousCategory := v.previousCategory, message := v.message } }

def run (a : Adapter ν) (ctx : Context) (options : Options) (head : ν) : Report :=
  ofAnalysis a (Analysis.run a ctx options head)

def isClean (r : Report) : Bool :=
  r.warnings.isEmpty && r.violations.isEmpty && r.findings.all (·.warnings.isEmpty)

end Report

namespace Payload

def strings (items : List String) : Json := .arr (items.map .str)

def number (n : Nat) : Json := .num n

def trialMembers (p : Trial.Payload) : List (String × Json) :=
  [("origin", .str p.origin), ("feature", .str p.feature), ("expiry", .str (Instant.text p.expiry)),
    ("isSubdomain", .bool p.isSubdomain), ("isThirdParty", .bool p.isThirdParty)] ++
    Json.optional "usage" .str p.usage

def policyMembers (p : Policy) : List (String × Json) :=
  [("directives", .obj (p.directives.map fun (name, values) => (name, strings values)))]

def kind : Payload → String
  | .originTrial _ => "origin-trial"
  | .contentPolicy _ => "content-security-policy"
  | .defaultStyle .. => "default-style"
  | .charset .. => "charset"
  | .viewport _ => "viewport"
  | .unnecessaryPreload .. => "unnecessary-preload"

def members : Payload → List (String × Json)
  | .originTrial p => trialMembers p
  | .contentPolicy p => policyMembers p
  | .defaultStyle title stylesheet =>
    [("title", Json.orNull .str title), ("alternateStylesheet", Json.orNull .str stylesheet)]
  | .charset encoding offset =>
    [("charset", Json.orNull .str encoding), ("byteOffset", Json.orNull number offset)]
  | .viewport directives =>
    [("directives", .obj (directives.map fun (key, value) => (key, .str value)))]
  | .unnecessaryPreload href url discoveredBy =>
    [("href", .str href), ("url", .str url), ("discoveredBy", .str discoveredBy)]

def toJson (p : Payload) : Json := .obj (("kind", .str p.kind) :: p.members)

end Payload

namespace Location

def toJson (l : Location) : Json :=
  .obj
    ([("line", .num l.line), ("column", .num l.column)] ++
      Json.optional "endLine" Payload.number l.endLine? ++
      Json.optional "endColumn" Payload.number l.endColumn?)

end Location

namespace Snapshot

def toJson (s : Snapshot) : Json :=
  .obj
    (Json.optional "index" Payload.number s.index ++
      [("tag", .str s.tag), ("markup", .str s.markup)] ++
      Json.optional "location" Location.toJson s.location)

end Snapshot

namespace Report

def WeightEntry.toJson (w : WeightEntry) : Json :=
  .obj [("element", w.element.toJson), ("category", .str w.category.name),
    ("weight", .num w.weight), ("valid", .bool w.valid)]

def WarningEntry.toJson (w : WarningEntry) : Json :=
  .obj [("message", .str w.message), ("elements", .arr (w.elements.map Snapshot.toJson))]

def FindingEntry.toJson (f : FindingEntry) : Json :=
  .obj
    ([("element", f.element.toJson), ("warnings", Payload.strings f.warnings)] ++
      Json.optional "payload" Payload.toJson f.payload)

def ViolationEntry.toJson (v : ViolationEntry) : Json :=
  .obj [("index", .num v.index), ("element", v.element.toJson),
    ("previousElement", v.previous.toJson), ("weight", .num v.weight),
    ("previousWeight", .num v.previousWeight), ("category", .str v.category.name),
    ("previousCategory", .str v.previousCategory.name), ("message", .str v.message)]

def toJson (r : Report) : Json :=
  .obj [("adapter", .str r.adapter), ("weights", .arr (r.weights.map WeightEntry.toJson)),
    ("validationWarnings", .arr (r.warnings.map WarningEntry.toJson)),
    ("customValidations", .arr (r.findings.map FindingEntry.toJson)),
    ("orderingViolations", .arr (r.violations.map ViolationEntry.toJson))]

def text (r : Report) : String := r.toJson.pretty

end Report

end HeadAudit
