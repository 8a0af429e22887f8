namespace HeadAudit

inductive Category where
  | pragma
  | title
  | preconnect
  | asyncScript
  | importStyles
  | syncScript
  | syncStyles
  | preload
  | deferScript
  | prefetchPrerender
  | other
  deriving DecidableEq

namespace Category

def all : List Category :=
  [.pragma, .title, .preconnect, .asyncScript, .importStyles, .syncScript, .syncStyles, .preload,
    .deferScript, .prefetchPrerender, .other]

def weight : Category → Nat
  | .pragma => 10
  | .title => 9
  | .preconnect => 8
  | .asyncScript => 7
  | .importStyles => 6
  | .syncScript => 5
  | .syncStyles => 4
  | .preload => 3
  | .deferScript => 2
  | .prefetchPrerender => 1
  | .other => 0

def name : Category → String
  | .pragma => "META"
  | .title => "TITLE"
  | .preconnect => "PRECONNECT"
  | .asyncScript => "ASYNC_SCRIPT"
  | .importStyles => "IMPORT_STYLES"
  | .syncScript => "SYNC_SCRIPT"
  | .syncStyles => "SYNC_STYLES"
  | .preload => "PRELOAD"
  | .deferScript => "DEFER_SCRIPT"
  | .prefetchPrerender => "PREFETCH_PRERENDER"
  | .other => "OTHER"

def ofWeight? (weight : Nat) : Option Category := all.find? (·.weight == weight)

def lighter (a b : Category) : Bool := a.weight < b.weight

theorem mem_all (c : Category) : c ∈ all := by
  cases c <;> decide

end Category

end HeadAudit
