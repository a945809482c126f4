import ComponentLookup.Json.Equal
import ComponentLookup.Walk.Basic

/-!
# Scripted walks

A visitor given as data: a list of rules, of which the first one that matches a node is used.  A
rule states facts about a node and its place, and says what to answer and what to edit.  The visitor
keeps a record of every call.
-/

namespace ComponentLookup

open Json

namespace Script

/-- The type and the name of a node, as they were when it was visited. -/
structure Label where
  type : Json
  name : Json

/-- The label of a node. -/
def Label.of (node : Json) : Label :=
  { type := (node.get? "type").getD .null, name := (node.get? "name").getD .null }

/-- One call of the visitor: on the way down with the action that the rule asked for, or on the way
up. -/
structure Visit where
  entering : Bool
  node : Label
  parent : Option Label
  key : Option String
  index : Option Nat
  action : Option Action

/-- A rule of a script. -/
structure Rule where
  /-- The facts that a node and its place have to meet. -/
  facts : Fields
  action : Option Action
  /-- Fields to assign to the node. -/
  set : Fields
  /-- Fields to assign to the parent. -/
  setParent : Fields
  /-- An item to add behind the siblings, once. -/
  push : Option Json
  /-- An item to add in front of the siblings, once. -/
  unshift : Option Json

/-- A rule with the note whether its additions are still to be made. -/
structure Entry where
  rule : Rule
  fresh : Bool

/-- The state of a scripted walk: the rules and the calls so far, the last one first. -/
structure State where
  entries : List Entry
  visits : List Visit

/-- The value of a fact about a node and its place. -/
def fact (site : Site) (node : Json) (name : String) : Option Json :=
  match name with
  | "type" => some ((node.get? "type").getD .null)
  | "name" => some ((node.get? "name").getD .null)
  | "key" => some ((site.key?.map Json.str).getD .null)
  | "index" => some ((site.index?.map fun i => Json.int i).getD .null)
  | "parent" => some ((site.parent?.bind (·.get? "type")).getD .null)
  | _ => none

/-- The rule applies to a node at a place. -/
def Rule.matches (rule : Rule) (site : Site) (node : Json) : Bool :=
  rule.facts.all fun (name, value) => (fact site node name).any (·.same value)

/-- The record of a call. -/
def visit (entering : Bool) (site : Site) (node : Json) (action : Option Action) : Visit :=
  { entering, node := .of node, parent := site.parent?.map Label.of
    key := site.key?, index := site.index?, action }

/-- The field of the parent that holds the siblings is a list once the rule has assigned its
fields. -/
def Rule.hasSiblings (rule : Rule) (site : Site) : Bool :=
  match site with
  | .item parent key _ =>
    let parent := rule.setParent.foldl (fun p field => p.set field.1 field.2) parent
    (parent.get? key).any fun v => v.items?.isSome
  | _ => false

/-- The items that a rule adds beside a node. -/
def Rule.additions (rule : Rule) : List ParentEdit :=
  (rule.push.map ParentEdit.append).toList ++ (rule.unshift.map ParentEdit.prepend).toList

/-- The answer of a rule to a node. -/
def Rule.reply (rule : Rule) (fresh : Bool) (site : Site) (node : Json) (state : State) :
    Reply State ShapeError :=
  let assigned := match site with
    | .root => []
    | _ => rule.setParent.map fun field => ParentEdit.assign field.1 field.2
  let added := if fresh && site.index?.isSome then rule.additions else []
  let node := rule.set.foldl (fun n field => n.set field.1 field.2) node
  if added.isEmpty || rule.hasSiblings site then
    { node, edits := assigned ++ added, state, outcome := .ok (rule.action.getD .descend) }
  else { node, edits := assigned, state, outcome := .error .noFields }

/-- Finds the first rule that matches, and marks its additions as made if the node is a list item.
-/
def use (site : Site) (node : Json) : List Entry → Option (Entry × List Entry)
  | [] => none
  | entry :: rest =>
    if entry.rule.matches site node then
      some (entry, { entry with fresh := entry.fresh && site.index?.isNone } :: rest)
    else (use site node rest).map fun (used, entries) => (used, entry :: entries)

/-- The answer of a script to a node. -/
def enter (site : Site) (node : Json) (state : State) : Reply State ShapeError :=
  match use site node state.entries with
  | none =>
    { node, edits := [], outcome := .ok .descend
      state := { state with visits := visit true site node none :: state.visits } }
  | some (entry, entries) =>
    entry.rule.reply entry.fresh site node
      { entries, visits := visit true site node entry.rule.action :: state.visits }

/-- The record of a call on the way up. -/
def leave (site : Site) (node : Json) (state : State) : State :=
  { state with visits := visit false site node none :: state.visits }

/-- The size of what a rule can add to a tree. -/
def Rule.size (rule : Rule) : Nat :=
  sizeFields rule.set + sizeFields rule.setParent +
    (rule.push.map Json.size).getD 0 + (rule.unshift.map Json.size).getD 0

/-- The visitor of a script.  What one rule adds can be met by the others, and a rule may come twice
in such a chain, because it can ask for the type of the parent. -/
def visitor (rules : List Rule) (recordLeave : Bool) : Visitor State ShapeError where
  enter := enter
  leave := if recordLeave then leave else fun _ _ state => state
  growth := rules.foldl (fun acc rule => acc * (rule.size + 1) * (rule.size + 1)) 1

/-- The tree after a scripted walk, and the calls in order.  Only an object can be walked. -/
def run (rules : List Rule) (recordLeave : Bool) (tree : Json) :
    Except ShapeError (Json × List Visit) := do
  let _ ← childSlots tree
  let walked := walk (visitor rules recordLeave) tree
    { entries := rules.map fun rule => { rule, fresh := true }, visits := [] }
  match walked.failure with
  | some e => .error e
  | none => .ok (walked.node, walked.state.visits.reverse)

end Script

end ComponentLookup
