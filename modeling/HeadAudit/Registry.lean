import HeadAudit.Backend

namespace HeadAudit

inductive RegistryError where
  | duplicate (name : String)
  | unknownAdapter (name : String) (registered : List String)
  | missingCapability (name : String) (capability : Capability)
  | builtinRemoval (name : String)
  | unknownShape (shape : Shape) (candidates : List (String × Shape))
  | typeMismatch (name expected : String)
  deriving DecidableEq

def RegistryError.message : RegistryError → String
  | .duplicate name => s!"An adapter named `{name}` is already registered"
  | .unknownAdapter name registered =>
    s!"Unknown adapter `{name}`; registered: " ++ ", ".intercalate registered
  | .missingCapability name capability =>
    s!"Adapter `{name}` is missing the required `{capability.method}` capability"
  | .builtinRemoval name => s!"Built-in adapter `{name}` cannot be unregistered"
  | .unknownShape shape candidates =>
    s!"No registered adapter handles nodes of type `{shape.name}`; candidates: " ++
      ", ".intercalate (candidates.map fun (name, shape) => s!"{name} ({shape.name})")
  | .typeMismatch name expected => s!"Adapter `{name}` is not a `{expected}`"

structure Registry.Entry where
  name : String
  builtin : Bool
  backend : Backend

structure Registry where
  entries : List Registry.Entry

namespace Registry

def empty : Registry := ⟨[]⟩

def withBuiltins : Registry :=
  ⟨[{ name := Live.adapterName, builtin := true, backend := .live },
    { name := Markup.adapterName, builtin := true, backend := .parsed none }]⟩

def names (r : Registry) : List String := r.entries.map (·.name)

def contains (r : Registry) (name : String) : Bool := r.entries.any (·.name == name)

def find (r : Registry) (name : String) : Except RegistryError Entry :=
  match r.entries.find? (·.name == name) with
  | some entry => .ok entry
  | none => .error (.unknownAdapter name r.names)

def check (r : Registry) (name : String) : Except RegistryError Unit := discard (r.find name)

/-- Add a backend at the end. The name has to be free, and the backend has to declare all that is
required. -/
def register (r : Registry) (name : String) (backend : Backend) : Except RegistryError Registry :=
  if r.contains name then .error (.duplicate name)
  else
    match backend.missingCapability? with
    | some capability => .error (.missingCapability name capability)
    | none => .ok ⟨r.entries ++ [{ name, builtin := false, backend }]⟩

def unregister (r : Registry) (name : String) : Except RegistryError Registry := do
  if (← r.find name).builtin then throw (.builtinRemoval name)
  return ⟨r.entries.eraseP (·.name == name)⟩

def create (r : Registry) (name type : String) : Except RegistryError Backend := do
  let entry ← r.find name
  if entry.backend.type == type then return entry.backend else throw (.typeMismatch name type)

def detect (r : Registry) (shape : Shape) : Except RegistryError String :=
  match r.entries.find? (·.backend.shape == shape) with
  | some entry => .ok entry.name
  | none => .error (.unknownShape shape (r.entries.map fun e => (e.name, e.backend.shape)))

def analyzeWith (r : Registry) (name : String) (ctx : Context) (options : Options)
    (head : Subject) : Except RegistryError Report := do
  let entry ← r.find name
  match entry.backend.report? ctx options head with
  | some report => return report
  | none => throw (.typeMismatch name head.shape.name)

def analyze (r : Registry) (ctx : Context) (options : Options) (head : Subject) :
    Except RegistryError Report := do
  r.analyzeWith (← r.detect head.shape) ctx options head

end Registry

end HeadAudit
