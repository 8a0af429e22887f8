import HeadAudit.Url.Basic
import HeadAudit.Url.Percent

namespace HeadAudit.Url

def isAsciiLetter (c : Char) : Bool := ('a' ≤ c && c ≤ 'z') || ('A' ≤ c && c ≤ 'Z')

def isDriveLetter : List Char → Bool
  | [a, b] => isAsciiLetter a && (b == ':' || b == '|')
  | _ => false

def isNormalDriveLetter : List Char → Bool
  | [a, b] => isAsciiLetter a && b == ':'
  | _ => false

def endsSegment (c : Char) : Bool := c == '/' || c == '\\' || c == '?' || c == '#'

def startsWithDriveLetter : List Char → Bool
  | [a, b] => isDriveLetter [a, b]
  | a :: b :: c :: _ => isDriveLetter [a, b] && endsSegment c
  | _ => false

def isDoubleDot (segment : List Char) : Bool :=
  Ascii.lower (String.ofList segment) ∈ ["..", "%2e%2e", "%2e.", ".%2e"]

def isSingleDot (segment : List Char) : Bool :=
  Ascii.lower (String.ofList segment) ∈ [".", "%2e"]

def throughLastSlash (path : List Char) : List Char :=
  (path.reverse.dropWhile (· != '/')).reverse

def lastSegment (path : List Char) : List Char := (path.reverse.takeWhile (· != '/')).reverse

def popPath (kind : Kind) (path : List Char) : List Char :=
  if kind == .file && isNormalDriveLetter (lastSegment path) then path else throughLastSlash path

/-- The slash at the end of `path` may go unless it is the first one or stands behind a drive
letter. -/
def slashCanGo (path : List Char) : Bool :=
  let before := path.dropLast
  before.contains '/' && !startsWithDriveLetter (lastSegment before ++ ['/'])

def upPath (kind : Kind) (path : List Char) : List Char :=
  let path := if path.getLast? == some '/' && slashCanGo path then path.dropLast else path
  popPath kind path

def withSlash (path : List Char) : List Char :=
  if path.getLast? == some '/' then path else path ++ ['/']

/-- A path under construction. `driveFirst` notes that a drive letter was met at its front, which
rules out a host. -/
structure PathBuild where
  path : List Char
  driveFirst : Bool := false

def addSegment (kind : Kind) (b : PathBuild) (segment : List Char) (slash : Bool) : PathBuild :=
  let ending := if slash then ['/'] else []
  if isDoubleDot segment then
    let path := upPath kind b.path
    { b with path := if slash then withSlash path else path }
  else if isSingleDot segment then { b with path := withSlash b.path }
  else
    match segment with
    | [letter, _] =>
      if kind == .file && b.path == ['/'] && isDriveLetter segment then
        { path := '/' :: letter :: ':' :: ending, driveFirst := true }
      else { b with path := b.path ++ segment ++ ending }
    | _ => { b with path := b.path ++ segment ++ ending }

def isSeparator (kind : Kind) (c : Char) : Bool := c == '/' || (c == '\\' && kind.isSpecial)

/-- A drive letter without a slash, left over from a base, gets its slash before more text. -/
def openSegment (kind : Kind) (b : PathBuild) (segment : List Char) : PathBuild :=
  if kind == .file && !segment.isEmpty && isNormalDriveLetter (b.path.drop 1) then
    { b with path := b.path ++ ['/'] }
  else b

/-- Add the segments of `input` up to a query or fragment, which is left over. `segment` holds the
current segment in reverse. -/
def addSegments (kind : Kind) : PathBuild → List Char → List Char → PathBuild × List Char
  | b, segment, [] => (close b segment false, [])
  | b, segment, c :: cs =>
    if isSeparator kind c then addSegments kind (close b segment true) [] cs
    else if c == '?' || c == '#' then (close b segment false, c :: cs)
    else addSegments kind b (c :: segment) cs
where
  close (b : PathBuild) (segment : List Char) (slash : Bool) : PathBuild :=
    let segment := segment.reverse
    addSegment kind (openSegment kind b segment) (Percent.encode Percent.inPath segment) slash

/-- Add segments to `path`. All slashes but one go at the front of a file path. -/
def parsePath (kind : Kind) (path input : List Char) : PathBuild × List Char :=
  let (b, rest) := addSegments kind ⟨path, false⟩ [] input
  if kind == .file then ({ b with path := '/' :: b.path.dropWhile (· == '/') }, rest) else (b, rest)

/-- The path behind an authority. A special URL always has one; otherwise it may be missing. -/
def parsePathStart (kind : Kind) (input : List Char) : PathBuild × List Char :=
  match input with
  | [] => if kind.isSpecial then parsePath kind ['/'] [] else (⟨[], false⟩, [])
  | c :: cs =>
    if kind.isSpecial then parsePath kind ['/'] (if isSeparator kind c then cs else c :: cs)
    else if c == '?' || c == '#' then (⟨[], false⟩, c :: cs)
    else if c == '/' then parsePath kind [] (c :: cs)
    else parsePath kind ['/'] (c :: cs)

end HeadAudit.Url
