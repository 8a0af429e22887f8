import Mathlib
import HeadAudit.Steps

namespace HeadAudit

open EStateM

variable {ε σ α β : Type} {steps : EStateM ε σ α} {next : α → EStateM ε σ β} {s s' : σ} {a : α}
  {e : ε} {b : Bool} {r : Except ε (σ × α)}

theorem run_bind_of_ok (h : steps.run s = .ok a s') :
    (steps >>= next).run s = (next a).run s' := by
  rw [run_bind, h]

theorem run_bind_of_error (h : steps.run s = .error e s') :
    (steps >>= next).run s = .error e s' := by
  rw [run_bind, h]

theorem run_refuseIf_of_true (h : b = true) :
    (refuseIf b e : EStateM ε σ Unit).run s = .error e s := by
  rw [refuseIf, if_pos h]
  rfl

theorem run_refuseIf_of_false (h : b = false) :
    (refuseIf b e : EStateM ε σ Unit).run s = .ok () s := by
  rw [refuseIf, if_neg (Bool.eq_false_iff.mp h)]
  rfl

theorem run_ofExcept (r : Except ε α) :
    (MonadExcept.ofExcept r : EStateM ε σ α).run s =
      match r with
      | .ok a => .ok a s
      | .error e => .error e s := by
  cases r <;> rfl

theorem run_answer_of_settled (h : steps.run s = settled s r) (c : β) :
    (do let _ ← steps; return c : EStateM ε σ β).run s = settled s (r.map fun x => (x.1, c)) := by
  rw [run_bind, h]
  cases r <;> rfl

theorem stateAfter_of_settled (h : steps.run s = settled s r) :
    stateAfter steps s = (r.toOption.map Prod.fst).getD s := by
  rw [stateAfter, h]
  cases r <;> rfl

end HeadAudit
