namespace HeadAudit

variable {ε σ α : Type}

/-- The state that steps end in, also where one of them was refused and the rest left out. -/
def stateAfter (steps : EStateM ε σ α) (s : σ) : σ :=
  match steps.run s with
  | .ok _ s | .error _ s => s

def refuseIf (b : Bool) (e : ε) : EStateM ε σ Unit := if b then throw e else pure ()

/-- What steps come to that change the state as a whole or not at all. -/
def settled (s : σ) : Except ε (σ × α) → EStateM.Result ε σ α
  | .ok (s, a) => .ok a s
  | .error e => .error e s

end HeadAudit
