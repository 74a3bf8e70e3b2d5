import StructuralEditing.Config.Reader
import StructuralEditing.Json.Basic
import StructuralEditing.Scope.Listing
import StructuralEditing.Session.Run
import StructuralEditing.Tree.Builder
import StructuralEditing.Wire.Command
import StructuralEditing.Proofs.Document.Substitution
import StructuralEditing.Proofs.Scope.Containing
import StructuralEditing.Proofs.Scope.Nested
import StructuralEditing.Proofs.Scope.Textual
import StructuralEditing.Proofs.Session.HatTracking
import StructuralEditing.Proofs.Hat.Snapshot
import StructuralEditing.Proofs.Wire.RoundTrip
import StructuralEditing.Proofs.Tracking.Refusal
import StructuralEditing.Proofs.Scope.Counted
import StructuralEditing.Proofs.Document.Correspondence
import StructuralEditing.Proofs.Scope.Removal
import StructuralEditing.Proofs.Scope.Visible
import StructuralEditing.Proofs.Tracking.Bounds
import StructuralEditing.Proofs.Tracking.Growth
import StructuralEditing.Proofs.Action.Replaced
import StructuralEditing.Proofs.Action.Wrapped
import StructuralEditing.Proofs.Action.Removed
import StructuralEditing.Proofs.Action.Interlined
import StructuralEditing.Proofs.Action.Brought
import StructuralEditing.Proofs.Scope.Arranged
import StructuralEditing.Proofs.Scope.Ending
import StructuralEditing.Proofs.Tracking.Reordered
import StructuralEditing.Proofs.Scope.Ancestors
import StructuralEditing.Proofs.Scope.Enumerated
import StructuralEditing.Proofs.Scope.Stepping
import StructuralEditing.Proofs.Scope.Relative
import StructuralEditing.Proofs.Scope.NextLine
import StructuralEditing.Proofs.Scope.FoundAgain
import StructuralEditing.Proofs.Scope.Ahead
import StructuralEditing.Proofs.Scope.Every
import StructuralEditing.Proofs.Scope.EveryLine
import StructuralEditing.Proofs.Scope.EveryPair
import StructuralEditing.Proofs.Pair.Balanced
import StructuralEditing.Proofs.Pair.Unclosed
import StructuralEditing.Proofs.Document.LineRemoval
import StructuralEditing.Proofs.Scope.ParagraphRemoval
import StructuralEditing.Proofs.Scope.OrdinalSpan
import StructuralEditing.Proofs.Wire.OlderPayload
import StructuralEditing.Proofs.Scope.PairAround
import StructuralEditing.Proofs.Session.HatAllocation
import StructuralEditing.Proofs.Token.Coverage
import StructuralEditing.Proofs.Token.Words
import StructuralEditing.Proofs.Tree.Descent
import StructuralEditing.Proofs.Toml.Reading
import StructuralEditing.Proofs.Modifier.Chain
import StructuralEditing.Proofs.Text.Bytes
import StructuralEditing.Proofs.Document.Tiled
import StructuralEditing.Proofs.Text.Bytes
import StructuralEditing.Proofs.Modifier.Chain
