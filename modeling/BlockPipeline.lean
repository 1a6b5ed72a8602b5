import BlockPipeline.Cli.Program
import BlockPipeline.Diagnose
import BlockPipeline.Main
import BlockPipeline.Proofs.Compile.Closed
import BlockPipeline.Proofs.Draft.Reload
import BlockPipeline.Proofs.Graph.History
import BlockPipeline.Service.Http
import BlockPipeline.Session
import BlockPipeline.Spec.Validate
import BlockPipeline.Trace.Correlation
import BlockPipeline.Trace.Listing
import BlockPipeline.Proofs.Compile.Locks
import BlockPipeline.Proofs.Graph.Cycle
import BlockPipeline.Proofs.Diagnose.Clean
import BlockPipeline.Proofs.Graph.EdgeId
import BlockPipeline.Proofs.Compile.Valid
import BlockPipeline.Proofs.Json.Depth
import BlockPipeline.Proofs.Json.Tokens
import BlockPipeline.Proofs.Json.Text
import BlockPipeline.Proofs.Json.Faithful
import BlockPipeline.Proofs.Time.Civil
import BlockPipeline.Proofs.Time.Instant
import BlockPipeline.Proofs.Json.Shallow
import BlockPipeline.Proofs.Spec.Wire
import BlockPipeline.Proofs.Spec.ReadBack
import BlockPipeline.Proofs.Compile.Depth
import BlockPipeline.Proofs.Cli.Compile
import BlockPipeline.Proofs.Graph.Standing
import BlockPipeline.Proofs.Draft.Reorder
import BlockPipeline.Proofs.Compile.Reload
import BlockPipeline.Proofs.Session.Log
import BlockPipeline.Proofs.Session.Latest
import BlockPipeline.Proofs.Diagnose.Locks
import BlockPipeline.Proofs.Session.Calls
import BlockPipeline.Proofs.Session.Failure
import BlockPipeline.Proofs.Diagnose.Snapshot
import BlockPipeline.Proofs.Trace.Correlation
import BlockPipeline.Proofs.Service.Wire
import BlockPipeline.Proofs.Graph.QuickStart
import BlockPipeline.Proofs.Session.Invariant
import BlockPipeline.Proofs.Spec.FirstBreach
import BlockPipeline.Proofs.Compile.LockOrder
import BlockPipeline.Proofs.Graph.Refusal
import BlockPipeline.Proofs.Registry.Listing
import BlockPipeline.Proofs.Diagnose.Wiring
import BlockPipeline.Proofs.Diagnose.Config
import BlockPipeline.Proofs.Spec.Precedence
import BlockPipeline.Proofs.Draft.Account
import BlockPipeline.Proofs.Graph.Removal
import BlockPipeline.Proofs.Trace.Focus
import BlockPipeline.Proofs.Graph.Undo
import BlockPipeline.Proofs.Config.View
import BlockPipeline.Proofs.Diagnose.Placement
import BlockPipeline.Proofs.Diagnose.QuickStart
import BlockPipeline.Proofs.Graph.Addressing
import BlockPipeline.Proofs.Graph.Course
import BlockPipeline.Proofs.Diagnose.Adjustment
