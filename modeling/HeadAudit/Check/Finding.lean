import HeadAudit.Policy
import HeadAudit.Adapter.Selector
import HeadAudit.Adapter.Written
import HeadAudit.Trial.Token

namespace HeadAudit

inductive Payload where
  | originTrial (payload : Trial.Payload)
  | contentPolicy (policy : Policy)
  | defaultStyle (title alternateStylesheet : Option String)
  | charset (charset : Option String) (byteOffset : Option Nat)
  | viewport (directives : Dictionary String)
  | unnecessaryPreload (href url discoveredBy : String)
  deriving DecidableEq

structure Finding where
  warnings : List String := []
  payload : Option Payload := none
  deriving DecidableEq

namespace Finding

def warning (message : String) : Finding := { warnings := [message] }

def isEmpty (f : Finding) : Bool := f.warnings.isEmpty && f.payload.isNone

end Finding

end HeadAudit
