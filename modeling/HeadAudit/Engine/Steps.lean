import HeadAudit.Engine
import HeadAudit.Steps

namespace HeadAudit

def Config.Steps.set (key value : String) : EStateM ConfigError Config Unit := do
  if key ∈ ["documentUrl", "document_url", "document-url"] then
    let _ ← MonadExcept.ofExcept (UrlField.document.parse value)
    modify ({ · with documentUrl := some value })
  else if key ∈ ["baseUrl", "base_url", "base-url"] then
    let _ ← MonadExcept.ofExcept (UrlField.base.parse value)
    modify ({ · with baseUrl := some value })
  else if key == "adapter" then
    refuseIf (Text.blank value) (.invalidValue key value "an adapter name")
    modify ({ · with adapter := some (Text.trim value) })
  else
    let options ← MonadExcept.ofExcept ((← get).options.set key value)
    modify ({ · with options })

/-- Set one key of the configuration. What a refused key leaves of the configuration is a copy that
nobody keeps. -/
def Engine.Steps.set (key value : String) : EStateM EngineError Engine Unit := do
  let e ← get
  match (Config.Steps.set key value).run e.config with
  | .error error _ => throw (.config error)
  | .ok _ config =>
    let _ ← MonadExcept.ofExcept (checkAdapter e.registry config)
    modify ({ · with config })

end HeadAudit
