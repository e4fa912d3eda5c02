import Scenario.Text.Buffer
import Scenario.Text.Lines
import Scenario.Text.Printable
import Scenario.Text.Quoted
import Scenario.Delimiter
import Scenario.Position
import Scenario.Span
import Scenario.Token
import Scenario.Options
import Scenario.Fault
import Scenario.Cursor
import Scenario.Scan.Rule
import Scenario.Scan.Pass
import Scenario.Tree.Basic
import Scenario.Tree.Builder
import Scenario.Tree.Walk
import Scenario.WebGal
import Scenario.Listener
import Scenario.Observer
import Scenario.Session.Command
import Scenario.Session.State
import Scenario.Session.Run
import Scenario.Journal
import Scenario.Version
import Scenario.Proofs.Position
import Scenario.Proofs.Cursor
import Scenario.Proofs.Grammar
import Scenario.Proofs.Execution
import Scenario.Proofs.RoundTrip
import Scenario.Proofs.Tiling
import Scenario.Proofs.Driving
import Scenario.Proofs.Shape
import Scenario.Proofs.Diagnostic
import Scenario.Proofs.Failure
import Scenario.Proofs.Locality
import Scenario.Proofs.Blanks
import Scenario.Proofs.Restart
import Scenario.Proofs.Chart
import Scenario.Proofs.Growth
import Scenario.Proofs.Strictness
import Scenario.Proofs.Progress
import Scenario.Proofs.Listening
import Scenario.Proofs.Observing
import Scenario.Proofs.Objection
import Scenario.Proofs.Finality
import Scenario.Proofs.Adjacency
import Scenario.Proofs.Blocks
import Scenario.Proofs.Stacking
import Scenario.Proofs.Grouping
import Scenario.Proofs.Printing
import Scenario.Proofs.Labels
import Scenario.Proofs.Placement
import Scenario.Proofs.Coordinates
import Scenario.Proofs.Inline
import Scenario.Proofs.Statements
import Scenario.Proofs.Membership
import Scenario.Proofs.History
import Scenario.Proofs.Reentrance
import Scenario.Proofs.Handlers
import Scenario.Proofs.Preorder
import Scenario.Proofs.Stepwise
import Scenario.Proofs.Scoping
import Scenario.Proofs.Snapshot
import Scenario.Proofs.Configuring
import Scenario.Proofs.Loggers
