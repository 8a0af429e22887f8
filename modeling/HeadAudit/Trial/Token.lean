import HeadAudit.Text.Ascii
import HeadAudit.Base64
import HeadAudit.Calendar
import HeadAudit.Json.Reader
import HeadAudit.Json.Value
import HeadAudit.Url.Parser

namespace HeadAudit.Trial

structure Payload where
  origin : String
  feature : String
  expiry : Int
  isSubdomain : Bool := false
  isThirdParty : Bool := false
  usage : Option String := none
  deriving DecidableEq

def lengthOffset : Nat := 65
def payloadOffset : Nat := 69

inductive Fault where
  | base64 (fault : Base64.Fault)
  | truncated (bytes : Nat)
  | lengthOutOfRange (length available : Nat)
  | json (fault : Json.Fault)
  | origin (text : String)
  | expiry (seconds : Int)
  deriving DecidableEq

def Fault.message : Fault → String
  | .base64 fault => "token is not valid base64: " ++ fault.message
  | .truncated bytes => s!"token is {bytes} bytes, shorter than its {payloadOffset}-byte header"
  | .lengthOutOfRange length available =>
    s!"payload length {length} exceeds the {available} bytes available"
  | .json _ => "payload is not valid JSON"
  | .origin text => s!"payload origin `{text}` is not a URL"
  | .expiry seconds => s!"expiry {Numeral.ofInt seconds} is out of range"

structure Draft where
  origin : Option String := none
  feature : Option String := none
  expiry : Option Int := none
  isSubdomain : Option Bool := none
  isThirdParty : Option Bool := none
  usage : Option (Option String) := none

namespace Draft

open Json.Reader

def fields : List (RecordField Draft) :=
  [{ name := "origin", present := (·.origin.isSome),
     read := fun d => return { d with origin := some (← text) } },
   { name := "feature", present := (·.feature.isSome),
     read := fun d => return { d with feature := some (← text) } },
   { name := "expiry", present := (·.expiry.isSome),
     read := fun d => return { d with expiry := some (← integer) } },
   { name := "isSubdomain", present := (·.isSubdomain.isSome),
     read := fun d => return { d with isSubdomain := some (← bool) } },
   { name := "isThirdParty", present := (·.isThirdParty.isSome),
     read := fun d => return { d with isThirdParty := some (← bool) } },
   { name := "usage", present := (·.usage.isSome),
     read := fun d => return { d with usage := some (← optionalText) } }]

def finish (d : Draft) : Option Payload := do
  return {
    origin := ← d.origin
    feature := ← d.feature
    expiry := ← d.expiry
    isSubdomain := d.isSubdomain.getD false
    isThirdParty := d.isThirdParty.getD false
    usage := d.usage.join }

end Draft

/-- Read the JSON of a payload. Fields that no payload has are passed over. -/
def readPayload (bytes : List UInt8) : Except Json.Fault Payload :=
  Json.Reader.whole (Json.Reader.record Draft.fields false {} Draft.finish) bytes

def bigEndian (bytes : List UInt8) : Nat := bytes.foldl (fun n b => n * 256 + b.toNat) 0

def lengthBytes (n : Nat) : List UInt8 :=
  [UInt8.ofNat (n / 16777216 % 256), UInt8.ofNat (n / 65536 % 256), UInt8.ofNat (n / 256 % 256),
    UInt8.ofNat (n % 256)]

/-- A token is a version byte, a signature of 64 bytes, the length of the payload in four bytes with
the highest first, and the payload as JSON. The signature is not verified, and bytes behind the
payload do not matter. -/
def decodeBytes (bytes : List UInt8) : Except Fault Payload := do
  if bytes.length < payloadOffset then throw (.truncated bytes.length)
  let length := bigEndian ((bytes.drop lengthOffset).take 4)
  let available := bytes.length - payloadOffset
  if available < length then throw (.lengthOutOfRange length available)
  let payload ← (readPayload ((bytes.drop payloadOffset).take length)).mapError .json
  if (Url.parse payload.origin).toOption.isNone then throw (.origin payload.origin)
  if !Instant.inRange payload.expiry then throw (.expiry payload.expiry)
  return payload

/-- Decode a token; blanks in it do not matter. -/
def decode (token : String) : Except Fault Payload := do
  let symbols := String.ofList (token.toList.filter (!Ascii.isBlank ·))
  decodeBytes (← (Base64.decode (Utf8.encode symbols)).mapError .base64)

def Payload.toJson (p : Payload) : Json :=
  .obj
    ([("origin", .str p.origin), ("feature", .str p.feature), ("expiry", .num p.expiry)] ++
      (if p.isSubdomain then [("isSubdomain", .bool true)] else []) ++
      (if p.isThirdParty then [("isThirdParty", .bool true)] else []) ++
      Json.optional "usage" .str p.usage)

def unsignedVersion : UInt8 := 3

/-- The raw bytes of a token with a blank signature. -/
def unsignedBytes (p : Payload) : List UInt8 :=
  let json := Utf8.encode p.toJson.compact
  unsignedVersion :: List.replicate 64 0 ++ lengthBytes json.length ++ json

def encodeUnsigned (p : Payload) : String :=
  String.ofList ((Base64.encode (unsignedBytes p)).map fun b => Char.ofNat b.toNat)

end HeadAudit.Trial
