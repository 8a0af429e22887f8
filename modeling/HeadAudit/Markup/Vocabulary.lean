namespace HeadAudit.Markup.Vocabulary

/-- Elements that an end tag of another kind does not close. -/
def special : List String :=
  ["address", "applet", "area", "article", "aside", "base", "basefont", "bgsound", "blockquote",
   "body", "br", "button", "caption", "center", "col", "colgroup", "dd", "details", "dir", "div",
   "dl", "dt", "embed", "fieldset", "figcaption", "figure", "footer", "form", "frame", "frameset",
   "h1", "h2", "h3", "h4", "h5", "h6", "head", "header", "hgroup", "hr", "html", "iframe", "img",
   "input", "isindex", "li", "link", "listing", "main", "marquee", "menu", "meta", "nav", "noembed",
   "noframes", "noscript", "object", "ol", "p", "param", "plaintext", "pre", "script", "section",
   "select", "source", "style", "summary", "table", "tbody", "td", "template", "textarea", "tfoot",
   "th", "thead", "title", "tr", "track", "ul", "wbr", "xmp"]

def impliedEnd : List String :=
  ["dd", "dt", "li", "optgroup", "option", "p", "rb", "rp", "rt", "rtc"]

def impliedEndInTable : List String :=
  impliedEnd ++ ["caption", "colgroup", "tbody", "td", "tfoot", "th", "thead", "tr"]

/-- Elements that an opening of another block does not leave: a look-up from inside ends there. -/
def scopeBoundaries : List String :=
  ["applet", "caption", "html", "marquee", "object", "table", "td", "template", "th"]

def tableScopeBoundaries : List String := ["html", "table", "template"]

def headings : List String := ["h1", "h2", "h3", "h4", "h5", "h6"]

def formatting : List String :=
  ["a", "b", "big", "code", "em", "font", "i", "nobr", "s", "small", "strike", "strong", "tt", "u"]

def blocks : List String :=
  ["address", "article", "aside", "blockquote", "center", "details", "dialog", "dir", "div", "dl",
   "fieldset", "figcaption", "figure", "footer", "header", "hgroup", "main", "menu", "nav", "ol",
   "p", "search", "section", "summary", "ul"]

def closedAsBlocks : List String :=
  (blocks.filter (· != "p")) ++ ["button", "listing", "pre"]

/-- Elements that carry formatting marks of their own. -/
def embedded : List String := ["applet", "marquee", "object"]

def metadata : List String :=
  ["base", "basefont", "bgsound", "link", "meta", "noframes", "script", "style", "template",
    "title"]

def emptyMetadata : List String := ["base", "basefont", "bgsound", "link", "meta"]

def tableParts : List String :=
  ["caption", "col", "colgroup", "tbody", "td", "tfoot", "th", "thead", "tr"]

def rowGroups : List String := ["tbody", "tfoot", "thead"]

def cells : List String := ["td", "th"]

end HeadAudit.Markup.Vocabulary
