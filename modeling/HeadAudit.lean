import HeadAudit.Engine
import HeadAudit.Proofs.Adapter.NonElements
import HeadAudit.Proofs.Adapter.Offsets
import HeadAudit.Proofs.Adapter.StartTags
import HeadAudit.Proofs.Check.Policies
import HeadAudit.Proofs.Check.Pragmas
import HeadAudit.Proofs.Check.Preloads
import HeadAudit.Proofs.Check.Survey
import HeadAudit.Proofs.Check.Tokens
import HeadAudit.Proofs.Check.Viewports
import HeadAudit.Proofs.Engine.Agreement
import HeadAudit.Proofs.Engine.Updates
import HeadAudit.Proofs.Live.AttributeMap
import HeadAudit.Proofs.Live.DocumentOrder
import HeadAudit.Proofs.Live.Edits
import HeadAudit.Proofs.Live.Elements
import HeadAudit.Proofs.Live.Handles
import HeadAudit.Proofs.Live.Kinds
import HeadAudit.Proofs.Live.Leftovers
import HeadAudit.Proofs.Live.Replacement
import HeadAudit.Proofs.Live.Undo
import HeadAudit.Proofs.Live.Walks
import HeadAudit.Proofs.Markup.Layout
import HeadAudit.Proofs.Markup.PlainHead
import HeadAudit.Proofs.Markup.Spelling
import HeadAudit.Proofs.Markup.Sweep
import HeadAudit.Proofs.Ordering.Descents
import HeadAudit.Proofs.Parity.Backends
import HeadAudit.Proofs.Report.Integrity
import HeadAudit.Proofs.Report.Reorder
import HeadAudit.Proofs.Report.Text
import HeadAudit.Proofs.Rule.Overlap
import HeadAudit.Proofs.Selector.Refusals
import HeadAudit.Proofs.Trial.Judgement
import HeadAudit.Proofs.Trial.RoundTrip
