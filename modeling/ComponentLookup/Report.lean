import ComponentLookup.Rule.Context
import ComponentLookup.Json.Writer
import ComponentLookup.Validation

/-!
# Reports

The outcome of a resolving job: the resolved tree, the errors, the counters and the trace.  A report
can also be built from outside values, which are checked field by field (`Report.ofFields`).
-/

namespace ComponentLookup

/-- The outcome of a job. -/
structure Report where
  tree : Json := .null
  errors : List String := []
  success : Bool := true
  stats : Stats := []
  /-- The events of the trace, as values. -/
  trace : List Json := []

namespace Report

/-- The report of a job that failed with one error. -/
def failed (message : String) : Report := { success := false, errors := [message] }

variable (report : Report)

/-- There is at least one error. -/
def hasErrors : Bool := !report.errors.isEmpty

/-- The number of resolved checks. -/
def resolvedChecks : Int := report.stats.get "checks_rewritten"

/-- The tree as JSON text. -/
def toJsonText (indent : Json.Indent) : String := report.tree.write indent

/-! ### Reports from outside -/

/-- A checked list whose items are checked one by one. -/
def checkItems {α : Type} (key : String) (check : Json → Except Violation.Cause α) :
    Json → Checked (List α)
  | .arr items => Checked.all (items.zipIdx.map fun (item, i) =>
      Checked.leaf [.field key, .item i] (check item))
  | _ => .error [{ place := [.field key], cause := .listType }]

/-- Checked counters. -/
def checkStats (key : String) : Json → Checked Stats
  | .obj fields => Checked.all (fields.map fun (name, v) =>
      (Checked.leaf [.field key, .field name] (Scalar.ofJson v).asInt).map fun n => (name, n))
  | _ => .error [{ place := [.field key], cause := .dictType }]

/-- An object. -/
def checkObject : Json → Except Violation.Cause Json
  | .obj fields => .ok (.obj fields)
  | _ => .error .dictType

/-- A field that keeps its default if it is not given. -/
def checkField {α : Type} (fields : Fields) (key : String) (default : α)
    (check : Json → Checked α) : Checked α :=
  match Fields.get? key fields with
  | some v => check v
  | none => .ok default

/-- The report with the given values, or what is wrong with them. -/
def ofFields (fields : Fields) : Checked Report :=
  let errors := checkField fields "errors" [] (checkItems "errors" (Scalar.ofJson · |>.asText))
  let success := checkField fields "success" true fun v =>
    Checked.leaf [.field "success"] (Scalar.ofJson v).asBool
  let stats := checkField fields "stats" [] (checkStats "stats")
  let trace := checkField fields "trace_events" [] (checkItems "trace_events" checkObject)
  (Checked.both errors <| Checked.both success <| Checked.both stats trace).map
    fun (errors, success, stats, trace) =>
      { tree := (Fields.get? "tree" fields).getD .null, errors, success, stats, trace }

end Report

end ComponentLookup
