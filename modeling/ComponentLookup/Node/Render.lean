import ComponentLookup.Node.Layout

/-!
# Text of nodes

`Node.render` shows a node in the notation of its language, for traces and log lines.  Kinds without
a layout, and nodes that do not fit the layout of their kind, collapse to their type tag in angle
brackets; a value that is no node shows the name of its own kind.  Since a faulty node collapses on
its own, the nodes around it are still shown in full.
-/

namespace ComponentLookup

namespace Node

/-- What stands for a node that is not shown in full. -/
def placeholder (fields : Fields) : String :=
  match Fields.get? "type" fields with
  | some type => "<" ++ (if type.isTruthy then type.display else "Unknown") ++ ">"
  | none => "<Unknown>"

/-- Statements between braces, from their joined texts. -/
def braced (inner : String) : String :=
  if inner = "" then "\x7b\x7d" else "\x7b " ++ inner ++ " \x7d"

/-- An imported name, with the local name behind it where that is another one. -/
def aliased (imported localName : String) : String :=
  if localName = "" ∨ imported = localName then imported
  else imported ++ " as " ++ localName

/-- The layout of a node, if it has one. -/
def layoutOf? (fields : Fields) : Option (List (Piece (partBound fields))) :=
  match Fields.get? "type" fields with
  | some (.str kind) => layout? fields kind
  | _ => none

/-- The text of a value in a program. -/
def render : Json → String
  | .null => ""
  | .obj fields =>
    match layoutOf? fields with
    | none => placeholder fields
    | some pieces => String.join (pieces.map fun piece =>
        match piece with
        | .text s => s
        | .part p => render p.value
        | .block statements =>
          braced (" ".intercalate (statements.map fun p => render p.value))
        | .binding imported none => render imported.value
        | .binding imported (some localName) =>
          aliased (render imported.value) (render localName.value))
  | v => "<" ++ v.kindName ++ ">"
termination_by v => v.size
decreasing_by
  · exact p.smaller
  · exact p.smaller
  · exact imported.smaller
  · exact imported.smaller
  · exact localName.smaller

end Node

end ComponentLookup
