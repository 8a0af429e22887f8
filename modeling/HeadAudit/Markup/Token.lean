namespace HeadAudit.Markup

structure Doctype where
  name : String
  publicId : Option String
  systemId : Option String
  isBroken : Bool

structure Tag where
  name : String
  attrs : List (String × String)
  selfClosing : Bool

inductive Token where
  | doctype (d : Doctype)
  | opening (tag : Tag)
  | closing (name : String)
  | comment (s : String)
  | blank (s : String)
  | text (s : String)
  | null
  /-- A fault in the markup that leaves nothing else behind. -/
  | fault
  | eof

inductive TextMode where
  | markup
  | escapable (name : String)
  | raw (name : String)
  | script
  | plain

end HeadAudit.Markup
