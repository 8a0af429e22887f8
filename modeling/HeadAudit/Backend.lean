import HeadAudit.Live.View
import HeadAudit.Markup.View
import HeadAudit.Report

namespace HeadAudit

inductive Shape where
  | live
  | parsed
  | host (name : String)
  deriving DecidableEq

def Shape.name : Shape → String
  | .live => "capo_dom::adapter::LiveNode"
  | .parsed => "capo_html::adapter::StaticNode"
  | .host name => name

inductive Subject where
  | live (tree : Live.Tree) (id : Live.NodeId)
  | parsed (document : Markup.Document) (place : Markup.Place)
  | host (type : String) (node : Nat)

def Subject.shape : Subject → Shape
  | .live .. => .live
  | .parsed .. => .parsed
  | .host type _ => .host type

inductive Viewer where
  | live (adapter : Live.Tree → Adapter Live.NodeId)
  | parsed (adapter : Markup.Document → Adapter Markup.Place)
  | host (type : String) (adapter : Adapter Nat)

namespace Viewer

def shape : Viewer → Shape
  | live _ => .live
  | parsed _ => .parsed
  | host type _ => .host type

def report? (ctx : Context) (options : Options) : Viewer → Subject → Option Report
  | live adapter, .live tree id => some (Report.run (adapter tree) ctx options id)
  | parsed adapter, .parsed document place =>
    some (Report.run (adapter document) ctx options place)
  | host type adapter, .host type' node =>
    if type = type' then some (Report.run adapter ctx options node) else none
  | _, _ => none

end Viewer

/-- What can be registered. A backend of the host says how its nodes are viewed and which
capabilities it declares; everything else about it, the capability that it misses included, is
worked out from that in the default way. -/
inductive Backend where
  | live
  | parsed (locations : Option Markup.LocationTable)
  | host (type name : String) (capabilities : List Capability) (viewer : Viewer)

namespace Backend

def type : Backend → String
  | live => "capo_dom::adapter::DomAdapter"
  | parsed _ => "capo_html::adapter::RcDomAdapter"
  | host type .. => type

def name : Backend → String
  | live => Live.adapterName
  | parsed _ => Markup.adapterName
  | host _ name .. => name

def text : Backend → String
  | live => "DomAdapter"
  | parsed none => "RcDomAdapter \x7b locations: None \x7d"
  | parsed (some table) => s!"RcDomAdapter \x7b locations: Some({table.length}) \x7d"
  | host type .. => type

def viewer : Backend → Viewer
  | live => .live Live.Tree.adapter
  | parsed locations => .parsed fun document => document.adapter locations
  | host _ _ _ viewer => viewer

def shape (b : Backend) : Shape := b.viewer.shape

def capabilities : Backend → List Capability
  | live | parsed none => Capability.required
  | parsed (some _) => Capability.withLocation
  | host _ _ capabilities _ => capabilities

def missingCapability? (b : Backend) : Option Capability := Capability.missing? b.capabilities

def report? (b : Backend) (ctx : Context) (options : Options) (head : Subject) : Option Report :=
  b.viewer.report? ctx options head

end Backend

end HeadAudit
