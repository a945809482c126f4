import ComponentLookup.Json.Basic

/-!
# Traces

A tracer records what a resolution does: phases, which nest, and inside them edits, warnings and
inspections.  An event names the event that opened the innermost phase around it as its parent, by
position; the end of a phase names the event that opened it.

A tracer that does not record keeps its stack of phases all the same, so that both kinds go through
the same steps.
-/

namespace ComponentLookup

/-- An edit of one node: its type, its text before and after, and its position among its siblings,
where known.  A removed node has no text after. -/
structure Mutation where
  nodeType : String
  before : String
  after : String
  index : Option Int
  deriving DecidableEq

/-- What an event tells. -/
inductive EventBody where
  | phaseStart (name detail : String)
  | phaseEnd
  | mutation (m : Mutation)
  | warning (message : String)
  | inspection (subject outcome detail : String)
  deriving DecidableEq

/-- An event with the position of its parent. -/
structure Event where
  body : EventBody
  parent : Option Nat
  deriving DecidableEq

namespace Mutation

/-- The value that stands for an edit in a report. -/
def toJson (m : Mutation) : Json :=
  .obj [("node_type", .str m.nodeType),
    ("index", match m.index with
      | some i => .int i
      | none => .null),
    ("before", .str m.before), ("after", .str m.after)]

/-- A line about an edit. -/
def describe (m : Mutation) : String :=
  (if m.after = "" then "Removed " else "Rewrote ") ++ m.nodeType ++
    match m.index with
    | some i => " #" ++ toString i
    | none => ""

end Mutation

namespace EventBody

/-- The name of the kind of an event. -/
def typeName : EventBody → String
  | .phaseStart .. => "phase_start"
  | .phaseEnd => "phase_end"
  | .mutation _ => "ast_mutation"
  | .warning _ => "analysis_warning"
  | .inspection .. => "inspection"

/-- A line about an event. -/
def describe : EventBody → String
  | .phaseStart name _ => name
  | .phaseEnd => "End Phase"
  | .mutation m => m.describe
  | .warning message => message
  | .inspection subject _ _ => "Inspecting '" ++ subject ++ "'"

/-- The particulars of an event. -/
def metadata : EventBody → Json
  | .phaseStart _ detail => .obj [("detail", .str detail)]
  | .phaseEnd => .obj []
  | .mutation m => m.toJson
  | .warning _ => .obj [("level", .str "warning")]
  | .inspection _ outcome detail => .obj [("outcome", .str outcome), ("detail", .str detail)]

end EventBody

/-- The value that stands for an event in a report. -/
def Event.toJson (e : Event) : Json :=
  .obj [("type", .str e.body.typeName), ("description", .str e.body.describe),
    ("parent", match e.parent with
      | some i => .int i
      | none => .null),
    ("metadata", e.body.metadata)]

/-- A recorder of events.  `phases` holds the open phases, the innermost first, each with the
position of its opening event if that was recorded. -/
structure Tracer where
  recording : Bool
  events : List Event
  phases : List (Option Nat)
  deriving DecidableEq

namespace Tracer

/-- A tracer that has recorded nothing yet, or never will. -/
def empty (recording : Bool) : Tracer := { recording, events := [], phases := [] }

/-- The position of the event that opened the innermost phase. -/
def innermost (t : Tracer) : Option Nat := t.phases.head?.join

/-- Records an event under a parent. -/
def record (t : Tracer) (body : EventBody) (parent : Option Nat) : Tracer :=
  if t.recording then { t with events := t.events ++ [{ body, parent }] } else t

/-- The position that the next event gets, if it is recorded. -/
def nextId (t : Tracer) : Option Nat := if t.recording then some t.events.length else none

/-- Opens a phase inside the innermost one. -/
def startPhase (t : Tracer) (name detail : String) : Tracer :=
  { t.record (.phaseStart name detail) t.innermost with phases := t.nextId :: t.phases }

/-- Closes the innermost phase; with none open, nothing happens. -/
def endPhase (t : Tracer) : Tracer :=
  match t.phases with
  | [] => t
  | phase :: rest => { t.record .phaseEnd phase with phases := rest }

/-- Records an edit. -/
def logMutation (t : Tracer) (m : Mutation) : Tracer := t.record (.mutation m) t.innermost

/-- Records a warning. -/
def logWarning (t : Tracer) (message : String) : Tracer :=
  t.record (.warning message) t.innermost

/-- Records that something was looked at, and what came of it. -/
def logInspection (t : Tracer) (subject outcome detail : String) : Tracer :=
  t.record (.inspection subject outcome detail) t.innermost

/-- The edits among the events, in order. -/
def mutations (t : Tracer) : List Mutation :=
  t.events.filterMap fun e =>
    match e.body with
    | .mutation m => some m
    | _ => none

/-- The recorded events as values. -/
def toJson (t : Tracer) : List Json := t.events.map Event.toJson

end Tracer

end ComponentLookup
