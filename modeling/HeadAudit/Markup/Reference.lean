import HeadAudit.Markup.Reference.Names

namespace HeadAudit.Markup.Reference

inductive Place where
  | text
  | value
  deriving DecidableEq

def controls : List Nat :=
  [0x20AC, 0x81, 0x201A, 0x192, 0x201E, 0x2026, 0x2020, 0x2021, 0x2C6, 0x2030, 0x160, 0x2039, 0x152,
   0x8D, 0x17D, 0x8F, 0x90, 0x2018, 0x2019, 0x201C, 0x201D, 0x2022, 0x2013, 0x2014, 0x2DC, 0x2122,
   0x161, 0x203A, 0x153, 0x9D, 0x17E, 0x178]

/-- The character that a number refers to. Zero, surrogates and numbers beyond Unicode give the
replacement character. -/
def numbered (n : Nat) : Char :=
  if n == 0 || 0x10FFFF < n || (0xD800 ≤ n && n ≤ 0xDFFF) then '\ufffd'
  else if 0x80 ≤ n && n ≤ 0x9F then Char.ofNat (controls.getD (n - 0x80) n)
  else Char.ofNat n

def digits? (base : Nat) (isDigit : Char → Bool) (cs : List Char) :
    Option (List Char × List Char) :=
  match cs.span isDigit with
  | ([], _) => none
  | (digits, ';' :: rest) => some ([numbered (Ascii.valueIn base digits)], rest)
  | (digits, rest) => some ([numbered (Ascii.valueIn base digits)], rest)

def startsFaulty : List Char → Bool
  | '&' :: '#' :: 'x' :: cs | '&' :: '#' :: 'X' :: cs => lacksEnd Ascii.isHexDigit cs
  | '&' :: '#' :: cs => lacksEnd Char.isDigit cs
  | _ => false
where
  lacksEnd (isDigit : Char → Bool) (cs : List Char) : Bool :=
    cs.head?.any isDigit && (cs.dropWhile isDigit).head? != some ';'

def number? : List Char → Option (List Char × List Char)
  | 'x' :: cs | 'X' :: cs => digits? 16 Ascii.isHexDigit cs
  | cs => digits? 10 Char.isDigit cs

/-- The longest of the first `n` prefixes that is a name without a semicolon. -/
def openName? (cs : List Char) : Nat → Option (List Char × List Char)
  | 0 => none
  | n + 1 =>
    match openNames.lookup (cs.take (n + 1)) with
    | some value => some (value, cs.drop (n + 1))
    | none => openName? cs n

/-- In a value, a name without a semicolon does not count before an equals sign, a letter or a
digit. -/
def goesOn (place : Place) (rest : List Char) : Bool :=
  place == .value && rest.head?.any fun c => c == '=' || c.isAlphanum

def longestName : Nat := (openNames.map (·.1.length)).foldl max 0

def name? (place : Place) (cs : List Char) : Option (List Char × List Char) :=
  let (name, rest) := cs.span Char.isAlphanum
  let closed : Option (List Char × List Char) :=
    match rest with
    | ';' :: rest => ((closedNames.lookup name).or (openNames.lookup name)).map (·, rest)
    | _ => none
  closed.or <|
    (openName? cs (min name.length longestName)).bind fun (value, rest) =>
      if goesOn place rest then none else some (value, rest)

def read? (place : Place) : List Char → Option (List Char × List Char)
  | '#' :: cs => number? cs
  | cs => name? place cs

def replace (place : Place) : Nat → List Char → List Char
  | 0, _ => []
  | _, [] => []
  | fuel + 1, '&' :: cs =>
    match read? place cs with
    | some (value, rest) => value ++ replace place fuel rest
    | none => '&' :: replace place fuel cs
  | fuel + 1, c :: cs => c :: replace place fuel cs

def decode (place : Place) (cs : List Char) : List Char := replace place cs.length cs

end HeadAudit.Markup.Reference
