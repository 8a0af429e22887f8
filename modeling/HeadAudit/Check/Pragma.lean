import HeadAudit.Check.Finding

namespace HeadAudit.Check.Pragma

variable {ν : Type}

/-- Pragmas that are legitimate or have a check of their own. -/
def accepted : List String :=
  ["content-security-policy", "content-security-policy-report-only", "origin-trial", "content-type",
    "default-style", "refresh"]

def metaNames : List String :=
  ["application-name", "author", "description", "generator", "keywords", "referrer", "theme-color",
    "color-scheme", "viewport", "creator", "googlebot", "publisher", "robots"]

def prefetchWarning (content : Option String) : String :=
  match content with
  | some "on" => "DNS prefetching is enabled by default. Setting it to \"on\" has no effect."
  | some "off" =>
    "This is non-standard, however most browsers support disabling speculative DNS prefetching. " ++
      "It should still be noted that DNS prefetching is a generally accepted performance " ++
      "optimization and you should only disable it if you have specific security concerns."
  | content =>
    let found := content.getD ""
    "This is a non-standard way of disabling DNS prefetching, which is a performance " ++
      s!"optimization. Found content=\"{found}\". Use content=\"off\" if you have a " ++
      "legitimate security concern, otherwise remove it."

def warning? (pragma : String) (content : Option String) : Option String :=
  if pragma ∈ accepted then none
  else if pragma == "x-dns-prefetch-control" then some (prefetchWarning content)
  else if pragma ∈ ["cache-control", "etag", "pragma", "expires", "last-modified"] then
    some "This doesn't do anything. Use HTTP headers for any cache directives."
  else if pragma == "x-frame-options" then
    some ("This doesn't do anything. Use the CSP HTTP header with the frame-ancestors directive " ++
      "instead.")
  else if pragma ∈ ["x-ua-compatible", "content-style-type", "content-script-type", "imagetoolbar",
      "cleartype"] then
    some "This doesn't do anything. It was an Internet Explorer feature and is now deprecated."
  else if pragma ∈ ["page-enter", "page-exit", "site-enter", "site-exit"] then
    some ("This doesn't do anything. It was an Internet Explorer feature and is now deprecated. " ++
      "Use the View Transitions API instead.")
  else if pragma ∈ ["content-language", "language"] then
    some "This is non-conforming. Use the global lang attribute instead."
  else if pragma == "set-cookie" then
    some "This is non-conforming. Use the Set-Cookie HTTP header instead."
  else if pragma ∈ metaNames then
    some s!"This doesn't do anything. Did you mean `meta[name={pragma}]`?"
  else if pragma == "encoding" then
    some "This doesn't do anything. Did you mean `meta[charset]`?"
  else if pragma == "title" then
    some "This doesn't do anything. Did you mean to use the `title` tag instead?"
  else if pragma ∈ ["accept-ch", "delegate-ch"] then
    some "This is non-standard and may not work across browsers. Use HTTP headers instead."
  else
    some ("This is non-standard and may not work across browsers. http-equiv is not an " ++
      "alternative to HTTP headers.")

def folded (s : String) : String := Ascii.lower (Text.trim s)

def pragma (a : Adapter ν) (node : ν) : String := folded ((a.attr node "http-equiv").getD "")

def check (a : Adapter ν) (node : ν) : Finding :=
  match warning? (pragma a node) ((a.attr node "content").map folded) with
  | some message => .warning message
  | none => {}

end HeadAudit.Check.Pragma
