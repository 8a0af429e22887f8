import HeadAudit.Registry
import HeadAudit.Steps

namespace HeadAudit.Registry

abbrev Steps := EStateM RegistryError Registry

namespace Steps

def register (name : String) (backend : Backend) : Steps Unit := do
  refuseIf ((← get).contains name) (.duplicate name)
  match backend.missingCapability? with
  | some capability => throw (.missingCapability name capability)
  | none => modify fun r => ⟨r.entries ++ [{ name, builtin := false, backend }]⟩

def unregister (name : String) : Steps Unit := do
  let r ← get
  match r.entries.findFinIdx? (·.name == name) with
  | none => throw (.unknownAdapter name r.names)
  | some index =>
    refuseIf r.entries[index].builtin (.builtinRemoval name)
    set (⟨r.entries.eraseIdx index⟩ : Registry)

end Steps

end HeadAudit.Registry
