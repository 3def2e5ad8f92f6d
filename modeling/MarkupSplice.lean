import MarkupSplice.Markup.Escape
import MarkupSplice.Markup.Tree
import MarkupSplice.Plan
import MarkupSplice.Decimal.Shortest
import MarkupSplice.Selector
import MarkupSplice.Charset.Codec
import MarkupSplice.Text.LetterCase
import MarkupSplice.Text.Distance
import MarkupSplice.Text.PrintTable
import MarkupSplice.Layout
import MarkupSplice.Diagnostic
import MarkupSplice.Discovery
import MarkupSplice.Config.Reader
import MarkupSplice.Update.Run
import MarkupSplice.Main
import MarkupSplice.Proofs.Markup.Reference
import MarkupSplice.Proofs.Markup.Resume
import MarkupSplice.Proofs.Markup.Growth
import MarkupSplice.Proofs.Markup.Tiling
import MarkupSplice.Proofs.Markup.Outline
import MarkupSplice.Proofs.Edit.Schedule
import MarkupSplice.Proofs.Edit.Stretch
import MarkupSplice.Proofs.Markup.Site
import MarkupSplice.Proofs.Plan.Setting
import MarkupSplice.Proofs.Plan.Changes
import MarkupSplice.Proofs.Plan.Rewriting
import MarkupSplice.Proofs.Plan.Element
import MarkupSplice.Proofs.Plan.Present
import MarkupSplice.Proofs.Plan.Absent
import MarkupSplice.Proofs.Markup.Placement
import MarkupSplice.Proofs.Plan.Content
import MarkupSplice.Proofs.Plan.Listed
import MarkupSplice.Proofs.Plan.Joint
import MarkupSplice.Proofs.Plan.Several
import MarkupSplice.Proofs.Edit.Acceptance
import MarkupSplice.Proofs.Edit.Copying
import MarkupSplice.Proofs.Edit.Merging
import MarkupSplice.Proofs.Markup.Nesting
import MarkupSplice.Proofs.Markup.Interior
import MarkupSplice.Proofs.Plan.Clearing
import MarkupSplice.Proofs.Plan.Settled
import MarkupSplice.Proofs.Plan.Repeated
import MarkupSplice.Proofs.Markup.Lineage
import MarkupSplice.Proofs.Markup.Extent
import MarkupSplice.Proofs.Markup.Subtree
import MarkupSplice.Proofs.Markup.Pruning
import MarkupSplice.Proofs.Markup.Emptied
import MarkupSplice.Proofs.Edit.Shift
import MarkupSplice.Proofs.Edit.Collapse
import MarkupSplice.Proofs.Plan.Region
import MarkupSplice.Proofs.Plan.Selection
import MarkupSplice.Proofs.Plan.Locality
import MarkupSplice.Proofs.Plan.Closing
import MarkupSplice.Proofs.Plan.Distinct
import MarkupSplice.Proofs.Css.Chain
import MarkupSplice.Proofs.Edit.Mark
import MarkupSplice.Proofs.Plan.Mark
import MarkupSplice.Proofs.Plan.Emptied
import MarkupSplice.Proofs.XPath.Order
import MarkupSplice.Proofs.Css.Reading
import MarkupSplice.Proofs.FileTree.Replacing
import MarkupSplice.Proofs.Selector.Attribute
import MarkupSplice.Proofs.Update.Changed
import MarkupSplice.Proofs.Markup.Balance
import MarkupSplice.Proofs.Update.Independence
import MarkupSplice.Proofs.Update.Rehearsal
import MarkupSplice.Proofs.Charset.Unicode
import MarkupSplice.Proofs.Update.References
import MarkupSplice.Proofs.Plan.Ranges
import MarkupSplice.Proofs.Markup.Gaps
import MarkupSplice.Proofs.Plan.Remainder
import MarkupSplice.Proofs.Template
import MarkupSplice.Proofs.Path.Reference
import MarkupSplice.Proofs.Markup.Verbatim
import MarkupSplice.Proofs.XPath.Axes
import MarkupSplice.Proofs.XPath.NodeTest
import MarkupSplice.Proofs.Text.LowerCase
import MarkupSplice.Proofs.Css.IgnoringCase
import MarkupSplice.Proofs.XPath.Ranks
import MarkupSplice.Proofs.XPath.Rereading
import MarkupSplice.Proofs.XPath.Nesting
import MarkupSplice.Proofs.XPath.Height
import MarkupSplice.Proofs.Css.Nth
import MarkupSplice.Proofs.Css.Progression
import MarkupSplice.Proofs.Css.Writing
import MarkupSplice.Proofs.Css.Rereading
import MarkupSplice.Proofs.Css.Fitting
import MarkupSplice.Proofs.FileTree.Below
import MarkupSplice.Proofs.Markup.Scanner
import MarkupSplice.Proofs.Markup.LineIndex
import MarkupSplice.Proofs.Plan.Naming
import MarkupSplice.Proofs.Charset.Keeping
