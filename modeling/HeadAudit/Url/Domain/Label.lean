import HeadAudit.Text.Composition
import HeadAudit.Text.Direction
import HeadAudit.Text.Joining
import HeadAudit.Url.Domain.Mapping
import HeadAudit.Url.Punycode

namespace HeadAudit.Domain

def isAscii (cs : List Char) : Bool := cs.all (·.toNat < 128)

def marker : List Char := "xn--".toList

/-- A joiner of no width goes with a letter that has lost its vowel. The one that keeps letters
apart may also stand between letters that would join, whatever marks are on them. `before` holds
the characters in front, the nearest one first. -/
def joinerFits (before : List Char) (c : Char) (behind : List Char) : Bool :=
  let killed := before.head?.any fun d => Mark.order d.toNat == Mark.vowelKiller
  let nearest := fun (cs : List Char) =>
    ((cs.map Joining.ofChar).dropWhile (· == .transparent)).head?
  if c == '\u200d' then killed
  else if c == '\u200c' then
    killed || ((nearest before).any Joining.onward && (nearest behind).any Joining.backward)
  else true

def joinersFit : List Char → List Char → Bool
  | _, [] => true
  | before, c :: cs => joinerFits before c cs && joinersFit (c :: before) cs

def isReadable (cs : List Char) : Bool :=
  !cs.head?.any Mark.isMark && joinersFit [] cs

structure Label where
  shown : List Char
  resolved : List Char
  deriving DecidableEq

namespace Label

def longestShown : Nat := 1000

def longestCode : Nat := 2000

/-- Characters beyond ASCII go into punycode behind the marker. A label that carries the marker
already has to hold the punycode of a label that needs it. -/
def ofFolded? (cs : List Char) : Option Label :=
  if marker.isPrefixOf cs then do
    let code := cs.drop marker.length
    if !isAscii cs || longestCode < code.length then none
    let shown ← Punycode.decode? code
    if isAscii shown || Punycode.encode shown != code then none
    if !shown.all isSettled || Composition.composed shown != shown then none
    if marker.isPrefixOf shown || longestShown < shown.length || !isReadable shown then none
    return ⟨shown, cs⟩
  else if isAscii cs then some ⟨cs, cs⟩
  else if longestShown < cs.length || !isReadable cs then none
  else some ⟨cs, marker ++ Punycode.encode cs⟩

def rightward : List Direction :=
  [.leftToRight, .europeanNumber, .europeanSeparator, .commonSeparator, .europeanTerminator,
    .neutral, .boundaryNeutral, .nonspacing]

def leftward : List Direction :=
  [.rightToLeft, .arabicLetter, .arabicNumber, .europeanNumber, .europeanSeparator,
    .commonSeparator, .europeanTerminator, .neutral, .boundaryNeutral, .nonspacing]

def endsIn (allowed : List Direction) (ds : List Direction) : Bool :=
  match (ds.reverse.dropWhile (· == .nonspacing)).head? with
  | some d => allowed.contains d
  | none => false

/-- Directions that cannot be misread: the first letter gives the way to run, and the label keeps
to it. -/
def runsOneWay (ds : List Direction) : Bool :=
  match ds with
  | [] => true
  | .leftToRight :: _ =>
    ds.all rightward.contains && endsIn [.leftToRight, .europeanNumber] ds
  | .rightToLeft :: _ | .arabicLetter :: _ =>
    ds.all leftward.contains &&
      endsIn [.rightToLeft, .arabicLetter, .europeanNumber, .arabicNumber] ds &&
      !(ds.contains .europeanNumber && ds.contains .arabicNumber)
  | _ => false

def directions (l : Label) : List Direction := l.shown.map Direction.ofChar

end Label

/-- If a label has characters that run from right to left, each label has to keep to one way. -/
def keepDirection (labels : List Label) : Bool :=
  let directions := labels.map Label.directions
  !directions.any (·.any Direction.turns) || directions.all Label.runsOneWay

end HeadAudit.Domain
