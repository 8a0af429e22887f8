import HeadAudit.Check.Finding

namespace HeadAudit.Check.ContentPolicy

variable {ν : Type}

def headerOnly : List (String × String) :=
  [("report-uri", "Use the Content-Security-Policy-Report-Only HTTP header instead."),
    ("frame-ancestors", "Use the Content-Security-Policy HTTP header instead."),
    ("sandbox", "Use the Content-Security-Policy HTTP header instead.")]

def headerOnlyWarning (directive advice : String) : String :=
  s!"The {directive} directive is not supported in meta tags. {advice}"

def warnings (policy : Policy) : List String :=
  headerOnly.filterMap fun (directive, advice) =>
    if policy.contains directive then some (headerOnlyWarning directive advice) else none

def check (a : Adapter ν) (node : ν) : Finding :=
  if a.selects node "meta[http-equiv=content-security-policy-report-only i]" then
    .warning "CSP Report-Only is forbidden in meta tags"
  else
    match (a.attr node "content").filter (!Text.blank ·) with
    | none => .warning "Invalid CSP. The content attribute must be set."
    | some content =>
      let policy := Policy.parse content
      { warnings := warnings policy, payload := some (.contentPolicy policy) }

end HeadAudit.Check.ContentPolicy
