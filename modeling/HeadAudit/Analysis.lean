import HeadAudit.Check.Element
import HeadAudit.Check.Head
import HeadAudit.Options
import HeadAudit.Ordering

namespace HeadAudit

def version : String := "0.1.0"

structure Examined (ν : Type) where
  element : ν
  finding : Finding
  deriving DecidableEq

structure Analysis (ν : Type) where
  weights : List (Weighted ν)
  warnings : List (Warning ν)
  examined : List (Examined ν)
  head : ν

namespace Analysis

variable {ν : Type} [DecidableEq ν]

def examine? (a : Adapter ν) (ctx : Context) (element : ν) : Option (Examined ν) :=
  let finding := Check.Element.check a ctx element
  if finding.isEmpty then none else some { element, finding }

def run (a : Adapter ν) (ctx : Context) (options : Options) (head : ν) : Analysis ν :=
  let weights := weigh a head
  { weights
    warnings := if options.validation then Check.Head.check a ctx head else []
    examined :=
      if options.customValidations then weights.filterMap fun w => examine? a ctx w.element else []
    head }

def isFlagged (r : Analysis ν) (element : ν) : Bool :=
  r.warnings.any (element ∈ ·.elements) ||
    r.examined.any fun e => e.element = element && !e.finding.warnings.isEmpty

def finding? (r : Analysis ν) (element : ν) : Option (Examined ν) :=
  r.examined.find? (·.element = element)

def violations (r : Analysis ν) : List (Violation ν) := Ordering.violations r.weights

end Analysis

end HeadAudit
