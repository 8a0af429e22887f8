import HeadAudit.Json.Reader
import HeadAudit.Text.Ascii
import HeadAudit.Text.Blank
import HeadAudit.Context

namespace HeadAudit

inductive ConfigError where
  | unknownOption (name : String)
  | invalidValue (option value expected : String)
  | json (fault : Json.Fault)
  | invalidUrl (field : UrlField) (value : String) (fault : UrlFault)
  deriving DecidableEq

def ConfigError.message : ConfigError → String
  | .unknownOption name =>
    s!"Unknown option `{name}`; expected one of: includeValidation, includeCustomValidations"
  | .invalidValue option value expected =>
    s!"Invalid value `{value}` for option `{option}`; expected {expected}"
  | .json _ => "Invalid options document"
  | .invalidUrl field value fault => s!"Invalid {field.name} URL `{value}`: {fault.message}"

def UrlField.parse (field : UrlField) (value : String) : Except ConfigError Url :=
  (Url.parse value).mapError (.invalidUrl field value)

structure Options where
  validation : Bool := true
  customValidations : Bool := true
  deriving DecidableEq

namespace Options

inductive Key where
  | validation
  | customValidations
  deriving DecidableEq

def key? (name : String) : Option Key :=
  if name ∈ ["includeValidation", "include_validation", "include-validation"] then some .validation
  else if name ∈ ["includeCustomValidations", "include_custom_validations",
      "include-custom-validations"] then some .customValidations
  else none

def put (o : Options) : Key → Bool → Options
  | .validation, b => { o with validation := b }
  | .customValidations, b => { o with customValidations := b }

/-- A truth value in one of its spellings, in any case and with blanks around it. -/
def bool? (value : String) : Option Bool :=
  let value := Ascii.lower (Text.trim value)
  if value ∈ ["true", "1", "yes", "on"] then some true
  else if value ∈ ["false", "0", "no", "off"] then some false
  else none

def set (o : Options) (name value : String) : Except ConfigError Options :=
  match key? name with
  | none => .error (.unknownOption name)
  | some key =>
    match bool? value with
    | some b => .ok (o.put key b)
    | none => .error (.invalidValue name value "a boolean (true/false, 1/0, yes/no, on/off)")

structure Draft where
  validation : Option Bool := none
  customValidations : Option Bool := none

open Json.Reader

def Draft.fields : List (RecordField Draft) :=
  [{ name := "includeValidation", present := (·.validation.isSome),
     read := fun d => return { d with validation := some (← bool) } },
   { name := "includeCustomValidations", present := (·.customValidations.isSome),
     read := fun d => return { d with customValidations := some (← bool) } }]

def Draft.finish (d : Draft) : Options :=
  { validation := d.validation.getD true, customValidations := d.customValidations.getD true }

def reader : Json.Reader Options := Json.Reader.record Draft.fields true {} fun d => some d.finish

def ofJson (text : String) : Except ConfigError Options :=
  (Json.Reader.whole reader (Utf8.encode text)).mapError .json

end Options

end HeadAudit
