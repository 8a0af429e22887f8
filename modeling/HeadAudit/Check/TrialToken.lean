import HeadAudit.Check.Finding
import HeadAudit.Trial.Judgement

namespace HeadAudit.Check.TrialToken

variable {ν : Type}

def token (a : Adapter ν) (node : ν) : String := (a.attr node "content").getD ""

def complaints (ctx : Context) (token : String) : List String :=
  match Trial.decode token with
  | .ok payload => (Trial.problems payload ctx).map (·.message)
  | .error _ => ["invalid token"]

def check (a : Adapter ν) (ctx : Context) (node : ν) : Finding :=
  match Trial.decode (token a node) with
  | .ok payload =>
    { warnings := (Trial.problems payload ctx).map (·.message)
      payload := some (.originTrial payload) }
  | .error _ => .warning "invalid token"

end HeadAudit.Check.TrialToken
