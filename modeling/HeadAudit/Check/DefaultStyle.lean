import HeadAudit.Check.Finding

namespace HeadAudit.Check.DefaultStyle

variable {ν : Type}

def isDefaultStyle (a : Adapter ν) (node : ν) : Bool :=
  a.selects node "meta[http-equiv=default-style i]"

def hasRel (rel word : String) : Bool :=
  (rel.toList.splitOnP Ascii.isBlank).any fun w => Ascii.same (String.ofList w) word

def isAlternate (a : Adapter ν) (title : String) (node : ν) : Bool :=
  let rel := (a.attr node "rel").getD ""
  a.selects node "link[rel]" && hasRel rel "alternate" && hasRel rel "stylesheet" &&
    a.attr node "title" == some title

def missingTitle : String :=
  "This has no effect. The content attribute must be set to a valid stylesheet title."

def missingStylesheet (title : String) : String :=
  s!"This has no effect. No alternate stylesheet found having title=\"{title}\"."

def flashWarning : String :=
  "Even when used correctly, the default-style method of setting a preferred stylesheet " ++
    "results in a flash of unstyled content. Use modern CSS features like @media rules instead."

variable [DecidableEq ν]

/-- The title has to name a stylesheet among the siblings. Even then the change comes after the
first paint, so there is always a warning. -/
def check (a : Adapter ν) (node : ν) : Finding :=
  let title := (a.attr node "content").filter (!Text.blank ·)
  let stylesheet := title.bind fun title => (a.siblings node).find? (isAlternate a title)
  let complaint :=
    match title, stylesheet with
    | none, _ => [missingTitle]
    | some title, none => [missingStylesheet title]
    | some _, some _ => []
  { warnings := complaint ++ [flashWarning]
    payload := some (.defaultStyle title (stylesheet.map a.startTag)) }

end HeadAudit.Check.DefaultStyle
