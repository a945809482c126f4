import ComponentLookup.Config.ProjectFile
import ComponentLookup.Console.Jobs
import ComponentLookup.Rule.Declared
import ComponentLookup.Walk.Script
import ComponentLookup.Proofs.StepFault
import ComponentLookup.Proofs.Json.Distinct
import ComponentLookup.Proofs.Json.Edit
import ComponentLookup.Proofs.Json.Path
import ComponentLookup.Proofs.Node.Pattern
import ComponentLookup.Proofs.Node.Render
import ComponentLookup.Proofs.Node.StrictReads
import ComponentLookup.Proofs.Node.StrictText
import ComponentLookup.Proofs.Node.TextOutcome
import ComponentLookup.Proofs.Walk.Tour
import ComponentLookup.Proofs.Walk.Prune
import ComponentLookup.Proofs.Walk.Invariant
import ComponentLookup.Proofs.Walk.Following
import ComponentLookup.Proofs.Rule.Registry
import ComponentLookup.Proofs.Rule.Scan
import ComponentLookup.Proofs.Rule.Builtin
import ComponentLookup.Proofs.Rule.Dispatch
import ComponentLookup.Proofs.Rule.Kept
import ComponentLookup.Proofs.Rule.StrictRules
import ComponentLookup.Proofs.Rule.StrictDispatch
import ComponentLookup.Proofs.Program.Resolved
import ComponentLookup.Proofs.Program.Exact
import ComponentLookup.Proofs.Program.Hereditary
import ComponentLookup.Proofs.Program.Idempotence
import ComponentLookup.Proofs.Program.Calls
import ComponentLookup.Proofs.Program.Binding
import ComponentLookup.Proofs.Program.Names
import ComponentLookup.Proofs.Program.Edits
import ComponentLookup.Proofs.Program.Reports
import ComponentLookup.Proofs.Engine.Outcome
import ComponentLookup.Proofs.Program.Distribution
import ComponentLookup.Proofs.Resolver.Session
import ComponentLookup.Proofs.Resolver.Tracing
import ComponentLookup.Proofs.Resolver.History
import ComponentLookup.Proofs.Resolver.Phases
import ComponentLookup.Proofs.Rule.Prefix
import ComponentLookup.Proofs.Rule.ImportClause
import ComponentLookup.Proofs.Json.Leaves
import ComponentLookup.Proofs.Json.RoundTrip
import ComponentLookup.Proofs.Json.Read
import ComponentLookup.Proofs.Json.LongIntegers
import ComponentLookup.Proofs.Json.Fuel
import ComponentLookup.Proofs.Text.LineEnds
import ComponentLookup.Proofs.Json.LeafLineEnds
import ComponentLookup.Proofs.Json.LineEnds
import ComponentLookup.Proofs.Text.Encoding
import ComponentLookup.Proofs.Engine.Fixpoint
import ComponentLookup.Proofs.Engine.File
import ComponentLookup.Proofs.Engine.FileOutcome
import ComponentLookup.Proofs.Config.Settings
import ComponentLookup.Proofs.Config.Section
import ComponentLookup.Proofs.Config.Load
import ComponentLookup.Proofs.Walk.CallSequence
import ComponentLookup.Proofs.Resolver.RuleCalls
import ComponentLookup.Proofs.Console.Markup
import ComponentLookup.Proofs.Console.Rejection
import ComponentLookup.Proofs.Trace.Nesting
