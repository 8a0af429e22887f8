import HeadAudit.Check.Finding
import HeadAudit.Number.Decimal

namespace HeadAudit.Check.Viewport

variable {ν : Type}

def isViewport (a : Adapter ν) (node : ν) : Bool := a.selects node "meta[name=viewport i]"

def directive (item : List Char) : String × String :=
  let key := item.takeWhile (· != '=')
  let value := (item.dropWhile (· != '=')).drop 1
  (String.ofList (Text.strip Text.isBlank key), String.ofList (Text.strip Text.isBlank value))

/-- The items between commas as a dictionary in lower case. The last of equal keys counts, and
blank items are none. -/
def parse (content : String) : Dictionary String :=
  let items := (Ascii.lower content).toList.splitOnP (· == ',')
  (items.filter fun item => !item.all Text.isBlank).foldl
    (fun d item => let (key, value) := directive item; Dictionary.insert key value d) []

def inRange (low high n : Binary64) : Bool := low.le n && n.le high

def minDimension : Binary64 := .ofRatio false 1 1
def maxDimension : Binary64 := .ofRatio false 10000 1
def minScale : Binary64 := .ofRatio false 1 10
def maxScale : Binary64 := .ofRatio false 10 1

def accessibleZoom : Binary64 := .ofRatio false 2 1

def dimension (directive value keyword : String) : List String :=
  if value == keyword then []
  else
    match Decimal.read? value with
    | some n =>
      if inRange minDimension maxDimension n then []
      else [s!"Invalid {directive} \"{value}\". Numeric values must be between 1 and 10000."]
    | none =>
      [s!"Unsupported value \"{value}\" found for {directive}. Use {keyword} or a number."]

def scale (directive value : String) : List String :=
  match Decimal.read? value with
  | some n =>
    if inRange minScale maxScale n then []
    else
      [s!"Unsupported value \"{value}\" found for {directive}. Values must be between 0.1 " ++
        "and 10."]
  | none => [s!"Unsupported value \"{value}\" found for {directive}. Values must be numbers."]

/-- A zoom limit is looked at even when it is out of range. -/
def zoomLimit (value : String) : List String :=
  if (Decimal.read? value).any (·.lt accessibleZoom) then
    [s!"Disabling zoom levels under 2x can cause accessibility issues. Found \"{value}\"."]
  else []

def scalable (value : String) : List String :=
  if value ∈ ["yes", "1"] then []
  else if value ∈ ["no", "0"] then
    ["Disabling zooming can cause accessibility issues to users with visual impairments. Found " ++
      s!"\"{value}\"."]
  else [s!"Unsupported value \"{value}\" found for user-scalable. Use \"yes\" or \"no\"."]

def keyword (directive value : String) (allowed : List String) : List String :=
  if value ∈ allowed then []
  else
    let choices := ", ".intercalate allowed
    [s!"Unsupported value \"{value}\" found for {directive}. Use one of: {choices}."]

def directiveWarnings (directive value : String) : List String :=
  if directive == "width" then dimension directive value "device-width"
  else if directive == "height" then dimension directive value "device-height"
  else if directive ∈ ["initial-scale", "minimum-scale"] then scale directive value
  else if directive == "maximum-scale" then scale directive value ++ zoomLimit value
  else if directive == "user-scalable" then scalable value
  else if directive == "interactive-widget" then
    keyword directive value ["resizes-visual", "resizes-content", "overlays-content"]
  else if directive == "viewport-fit" then keyword directive value ["auto", "contain", "cover"]
  else if directive == "shrink-to-fit" then
    ["The shrink-to-fit directive has been obsolete since iOS 9.2. See " ++
      "https://www.scottohara.me/blog/2018/12/11/shrink-to-fit.html"]
  else [s!"Invalid viewport directive \"{directive}\"."]

def first? (a : Adapter ν) (node : ν) : Option ν :=
  (a.parent node).bind fun parent => (a.children parent).find? (isViewport a)

variable [DecidableEq ν]

def check (a : Adapter ν) (node : ν) : Finding :=
  if (first? a node).any (· ≠ node) then
    .warning ("Another meta viewport element has already been declared. Having multiple " ++
      "viewport settings can lead to unexpected behavior.")
  else
    match (a.attr node "content").filter (!Text.blank ·) with
    | none => .warning "Invalid viewport. The content attribute must be set."
    | some content =>
      let directives := parse content
      { warnings := directives.flatMap fun (key, value) => directiveWarnings key value
        payload := some (.viewport directives) }

end HeadAudit.Check.Viewport
