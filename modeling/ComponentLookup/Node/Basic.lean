import ComponentLookup.Json.Basic

/-!
# Syntax nodes

A program is a JSON value in the ESTree form: a node is an object whose field `type` is a text.
Other objects, such as source positions, are no nodes.

Nodes come from outside and may have any shape, so a read can meet a value of the wrong kind; the
two ways in which that fails are the cases of `ShapeError`.  The module also has the few nodes that
the resolver builds.
-/

namespace ComponentLookup

/-- A value of the wrong kind stood where a field or the items of a value were asked for. -/
inductive ShapeError where
  | noFields
  | noItems
  deriving DecidableEq

namespace Json

/-- The type tag of a node. -/
def kind? (v : Json) : Option String := (v.get? "type").bind text?

/-- The value is a node. -/
def isNode (v : Json) : Bool := v.kind?.isSome

/-- The value is a node with the given type tag. -/
def isKind (v : Json) (kind : String) : Bool := v.kind? == some kind

/-- A field that may be absent, of a value that has to be an object. -/
def field? (v : Json) (key : String) : Except ShapeError (Option Json) :=
  match v with
  | .obj fields => .ok (Fields.get? key fields)
  | _ => .error .noFields

/-- The elements of a value: the items of a list, the characters of a text or the names of an
object's fields. -/
def elements : Json → Except ShapeError (List Json)
  | .arr items => .ok items
  | .str s => .ok (s.toList.map fun c => .str (String.ofList [c]))
  | .obj fields => .ok (fields.map fun field => .str field.1)
  | _ => .error .noItems

end Json

/-! ### Child slots -/

/-- What a field of a node holds: a child node, or a list with at least one child node. -/
inductive Slot where
  | node
  | list
  deriving DecidableEq

/-- The slot that a value makes, if it holds a node. -/
def Slot.of? : Json → Option Slot
  | .arr items => if items.any Json.isNode then some .list else none
  | v => if v.isNode then some .node else none

/-- The fields of an object that hold child nodes, in order; the type tag is none. -/
def childSlots (v : Json) : Except ShapeError (List (String × Slot)) :=
  match v with
  | .obj fields =>
    .ok (fields.filterMap fun (key, value) =>
      if key = "type" then none else (Slot.of? value).map fun slot => (key, slot))
  | _ => .error .noFields

/-! ### Building nodes -/

namespace Node

/-- An identifier. -/
def identifier (name : Json) : Json :=
  .obj [("type", .str "Identifier"), ("name", name)]

/-- The import of one exported name under a local one. -/
def importSpecifier (imported localName : Json) : Json :=
  .obj [("type", .str "ImportSpecifier"), ("imported", identifier imported),
    ("local", identifier localName)]

/-- An assignment. -/
def assignment (left right : Json) (operator : Json) : Json :=
  .obj [("type", .str "AssignmentExpression"), ("operator", operator), ("left", left),
    ("right", right)]

end Node

end ComponentLookup
