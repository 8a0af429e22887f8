import HeadAudit.Url.Host

namespace HeadAudit

structure Authority where
  username : String := ""
  password : Option String := none
  host : Option Host := none
  port : Option Nat := none
  deriving DecidableEq

/-- A URL by its parts. The path is kept as escaped text: with a leading slash it consists of
segments, without one and without an authority it is opaque. -/
structure Url where
  scheme : String
  authority : Option Authority := none
  path : List Char := []
  query : Option String := none
  fragment : Option String := none
  deriving DecidableEq

namespace Url

inductive Kind where
  | file
  | special
  | other
  deriving DecidableEq

def kindOf (scheme : String) : Kind :=
  if scheme == "file" then .file
  else if scheme ∈ ["http", "https", "ws", "wss", "ftp"] then .special
  else .other

def Kind.isSpecial (kind : Kind) : Bool := kind != .other

def defaultPort? (scheme : String) : Option Nat :=
  if scheme == "http" || scheme == "ws" then some 80
  else if scheme == "https" || scheme == "wss" then some 443
  else if scheme == "ftp" then some 21
  else none

def kind (url : Url) : Kind := kindOf url.scheme

/-- No reference but a fragment can be resolved against an opaque path. -/
def isOpaque (url : Url) : Bool := url.authority.isNone && url.path.head? != some '/'

def host? (url : Url) : Option Host := url.authority.bind (·.host)

def hostText? (url : Url) : Option String := url.host?.map Host.text

def userinfo (a : Authority) : String :=
  match a.password with
  | some password => a.username ++ ":" ++ password ++ "@"
  | none => if a.username.isEmpty then "" else a.username ++ "@"

def authorityText (a : Authority) : String :=
  "//" ++ userinfo a ++ (a.host.map Host.text).getD "" ++
    (a.port.map fun port => ":" ++ toString port).getD ""

/-- A path that starts with two slashes takes `/.` in front where no authority stands, as it would
be read as one. -/
def prePath (url : Url) : String :=
  match url.authority with
  | some a => authorityText a
  | none => if "//".toList.isPrefixOf url.path then "/." else ""

def beforeFragment (url : Url) : String :=
  url.scheme ++ ":" ++ prePath url ++ String.ofList url.path ++
    (url.query.map ("?" ++ ·)).getD ""

def text (url : Url) : String :=
  beforeFragment url ++ (url.fragment.map ("#" ++ ·)).getD ""

def firstSegment (url : Url) : List Char := (url.path.drop 1).takeWhile (· != '/')

structure Origin where
  scheme : String
  host : Host
  port : Nat
  deriving DecidableEq

end Url

end HeadAudit
