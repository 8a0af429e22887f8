import HeadAudit.Text.Ascii
import HeadAudit.Text.Numeral

namespace HeadAudit

inductive Json where
  | null
  | bool (b : Bool)
  | num (n : Int)
  | str (s : String)
  | arr (items : List Json)
  | obj (members : List (String × Json))

namespace Json

/-- The escape of one character: quotes and backslashes, the short escapes, and four hexadecimal
digits for the other characters below a space. -/
def escapeChar (c : Char) : List Char :=
  if c == '"' then ['\\', '"']
  else if c == '\\' then ['\\', '\\']
  else if c == '\x08' then ['\\', 'b']
  else if c == '\x0c' then ['\\', 'f']
  else if c == '\n' then ['\\', 'n']
  else if c == '\r' then ['\\', 'r']
  else if c == '\t' then ['\\', 't']
  else if c < ' ' then
    ['\\', 'u', '0', '0', Ascii.lowerHexDigit (c.toNat / 16), Ascii.lowerHexDigit (c.toNat % 16)]
  else [c]

def quoted (s : String) : String :=
  String.ofList ('"' :: s.toList.flatMap escapeChar ++ ['"'])

mutual

def compact : Json → String
  | .null => "null"
  | .bool b => if b then "true" else "false"
  | .num n => Numeral.ofInt n
  | .str s => quoted s
  | .arr items => "[" ++ compactItems items ++ "]"
  | .obj members => "\x7b" ++ compactMembers members ++ "\x7d"

def compactItems : List Json → String
  | [] => ""
  | [item] => compact item
  | item :: items => compact item ++ "," ++ compactItems items

def compactMembers : List (String × Json) → String
  | [] => ""
  | [(key, item)] => quoted key ++ ":" ++ compact item
  | (key, item) :: members => quoted key ++ ":" ++ compact item ++ "," ++ compactMembers members

end

def newline (depth : Nat) : String := String.ofList ('\n' :: List.replicate (2 * depth) ' ')

mutual

def indented (depth : Nat) : Json → String
  | .null => "null"
  | .bool b => if b then "true" else "false"
  | .num n => Numeral.ofInt n
  | .str s => quoted s
  | .arr [] => "[]"
  | .arr (item :: items) =>
    "[" ++ newline (depth + 1) ++ indented (depth + 1) item ++ indentedItems (depth + 1) items ++
      newline depth ++ "]"
  | .obj [] => "\x7b\x7d"
  | .obj ((key, item) :: members) =>
    "\x7b" ++ newline (depth + 1) ++ quoted key ++ ": " ++ indented (depth + 1) item ++
      indentedMembers (depth + 1) members ++ newline depth ++ "\x7d"

def indentedItems (depth : Nat) : List Json → String
  | [] => ""
  | item :: items => "," ++ newline depth ++ indented depth item ++ indentedItems depth items

def indentedMembers (depth : Nat) : List (String × Json) → String
  | [] => ""
  | (key, item) :: members =>
    "," ++ newline depth ++ quoted key ++ ": " ++ indented depth item ++
      indentedMembers depth members

end

def pretty (json : Json) : String := indented 0 json

def orNull {α : Type} (f : α → Json) : Option α → Json
  | some a => f a
  | none => .null

def optional {α : Type} (key : String) (f : α → Json) : Option α → List (String × Json)
  | some a => [(key, f a)]
  | none => []

end Json

end HeadAudit
