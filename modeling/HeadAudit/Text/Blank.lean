namespace HeadAudit.Text

/-- The characters with the Unicode property White_Space. -/
def isBlank (c : Char) : Bool :=
  ('\t' ≤ c && c ≤ '\r') || c == ' ' || c == '\u0085' || c == '\u00a0' || c == '\u1680' ||
    ('\u2000' ≤ c && c ≤ '\u200a') || c == '\u2028' || c == '\u2029' || c == '\u202f' ||
    c == '\u205f' || c == '\u3000'

def strip (p : Char → Bool) (cs : List Char) : List Char :=
  ((cs.dropWhile p).reverse.dropWhile p).reverse

def trim (s : String) : String := String.ofList (strip isBlank s.toList)

def blank (s : String) : Bool := s.toList.all isBlank

def words (s : String) : List String :=
  (s.toList.splitOnP isBlank).filterMap fun w =>
    if w.isEmpty then none else some (String.ofList w)

/-- The pieces between the occurrences of `c`; there is always at least one. -/
def pieces (c : Char) (s : String) : List String :=
  (s.toList.splitOnP (· == c)).map String.ofList

def after? (pattern : List Char) : List Char → Option (List Char)
  | [] => if pattern.isEmpty then some [] else none
  | c :: cs =>
    if pattern.isPrefixOf (c :: cs) then some ((c :: cs).drop pattern.length)
    else after? pattern cs

def contains (pattern s : String) : Bool := (after? pattern.toList s.toList).isSome

end HeadAudit.Text
