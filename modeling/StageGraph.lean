import StageGraph.Bench
import StageGraph.Deferred
import StageGraph.Diagnostics
import StageGraph.Rehearsal
import StageGraph.Report
import StageGraph.SpecFile
import StageGraph.Proofs.Value.Places
import StageGraph.Proofs.Report.Pinpoint
import StageGraph.Proofs.Report.Aligned
import StageGraph.Proofs.Grammar.Faithful
import StageGraph.Proofs.Pattern.Anchor
import StageGraph.Proofs.Dataflow.Run
import StageGraph.Proofs.Attribution.Tracing
import StageGraph.Proofs.Attribution.Origin
import StageGraph.Proofs.Machine.Binding
import StageGraph.Proofs.Machine.Blame
import StageGraph.Proofs.Hosted.Agreement
import StageGraph.Proofs.Attribution.Inside
import StageGraph.Proofs.Scoping.Lexical
import StageGraph.Proofs.Resolvable.Deciding
import StageGraph.Proofs.Timing.CriticalPath
import StageGraph.Proofs.Timing.Paced
import StageGraph.Proofs.Timing.Punctual
import StageGraph.Proofs.Timing.Turning
import StageGraph.Proofs.Timing.Course
import StageGraph.Proofs.Timing.Run
import StageGraph.Proofs.Scoping.Segments
import StageGraph.Proofs.Lifetime.Lingering
import StageGraph.Proofs.Calls.Once
import StageGraph.Proofs.FanOut.Map
import StageGraph.Proofs.Attribution.Unattributed
import StageGraph.Proofs.Scoping.Inputs
import StageGraph.Proofs.Scoping.Stages
import StageGraph.Proofs.Teardown.Genuine
import StageGraph.Proofs.Teardown.Unspoiled
import StageGraph.Proofs.Teardown.Turning
import StageGraph.Proofs.Teardown.Run
import StageGraph.Proofs.Resolvable.Renaming
import StageGraph.Proofs.Resolvable.Decisive
import StageGraph.Proofs.Bystanders.Replies
import StageGraph.Proofs.Bystanders.Moments
import StageGraph.Proofs.Bystanders.Kindred
import StageGraph.Proofs.Bystanders.References
import StageGraph.Proofs.Bystanders.Turning
import StageGraph.Proofs.Bystanders.Course
import StageGraph.Proofs.Bystanders.Judging
import StageGraph.Proofs.Bystanders.FirstLook
import StageGraph.Proofs.Bystanders.Run
import StageGraph.Proofs.Value.Fields
import StageGraph.Proofs.Function.Binding
import StageGraph.Proofs.Invocation.Contract
import StageGraph.Proofs.Choice.Dispatch
import StageGraph.Proofs.Resolvable.Indexing
import StageGraph.Proofs.Resolvable.Routes
import StageGraph.Proofs.Resolvable.Arrival
import StageGraph.Proofs.Resolvable.Coming
import StageGraph.Proofs.Resolvable.Forcing
import StageGraph.Proofs.Resolvable.Earliest
import StageGraph.Proofs.Resolvable.Shape
import StageGraph.Proofs.Deferred.Asking
import StageGraph.Proofs.Deferred.Laziness
import StageGraph.Proofs.Deferred.Timetable
import StageGraph.Proofs.Deferred.Patience
import StageGraph.Proofs.Deferred.Commuting
import StageGraph.Proofs.Deferred.FailingFast
import StageGraph.Proofs.Table.Sorted
import StageGraph.Proofs.Registry.Catalog
import StageGraph.Proofs.Value.Lookups
import StageGraph.Proofs.Value.Taking
import StageGraph.Proofs.ValueType.Acceptance
import StageGraph.Proofs.ValueType.RoundTrip
import StageGraph.Proofs.Scoping.ByName
import StageGraph.Proofs.Deferred.Composing
import StageGraph.Proofs.Path.Text
import StageGraph.Proofs.Calls.Taking
