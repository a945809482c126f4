import ComponentLookup.Json.Display
import ComponentLookup.Node.Basic
import ComponentLookup.Text.Letter

/-!
# Layouts of nodes

The text of a node is its layout filled in: a row of pieces, which are fixed texts and holes for
parts of the node (`Piece`).  `layout?` gives the layout of each kind of node that the resolver
touches; a node that lacks a field, or has a value of the wrong kind in one, has no layout.

A hole carries the proof that its value is smaller than the node, so that filling in ends.
-/

namespace ComponentLookup

open Json

/-- A value below a size. -/
structure Part (n : Nat) where
  value : Json
  smaller : value.size < n

/-- A piece of the text of a node of size `n`. -/
inductive Piece (n : Nat) where
  /-- Fixed text. -/
  | text (s : String)
  /-- The text of a part. -/
  | part (p : Part n)
  /-- The texts of statements between braces. -/
  | block (statements : List (Part n))
  /-- An imported name, with its local name where the two differ. -/
  | binding (imported : Part n) (localName : Option (Part n))

/-- The size bound for the parts of an object. -/
abbrev partBound (fields : Fields) : Nat := sizeFields fields + 1

/-! ### Parts of a node -/

namespace Part

variable {n : Nat}

/-- A field of a part. -/
def get? (p : Part n) (key : String) : Option (Part n) :=
  match h : p.value.get? key with
  | none => none
  | some v => some ⟨v, by
      have hp := p.smaller
      cases hv : p.value <;> rw [hv] at h hp <;> simp only [Json.get?, reduceCtorEq] at h
      have := sizeFields_get? h
      simp only [Json.size] at hp
      omega⟩

/-- A field of a part, or nothing where it is absent or null. -/
def getNonNull? (p : Part n) (key : String) : Option (Part n) :=
  match p.get? key with
  | some ⟨.null, _⟩ => none
  | field => field

/-- The elements of a part. -/
def elements? (p : Part n) : Option (List (Part n)) :=
  match h : p.value with
  | .arr items => some (items.attach.map fun item => ⟨item.1, by
      have hp := p.smaller
      rw [h] at hp
      have := size_mem_items item.2
      simp only [Json.size] at hp
      omega⟩)
  | v =>
    match v.elements with
    | .ok texts => some (texts.filterMap fun t =>
        match t with
        | .str s => some ⟨.str s, by
            have hp := p.smaller
            have : 1 ≤ p.value.size := by cases p.value <;> simp [Json.size]
            simp only [Json.size]
            exact Nat.lt_of_le_of_lt this hp⟩
        | _ => none)
    | .error _ => none

end Part

/-- A field of a node. -/
def part? (fields : Fields) (key : String) : Option (Part (partBound fields)) :=
  match h : Fields.get? key fields with
  | none => none
  | some v => some ⟨v, Nat.lt_succ_of_le (sizeFields_get? h)⟩

/-- The elements of a field of a node; an absent field has none. -/
def parts? (fields : Fields) (key : String) : Option (List (Part (partBound fields))) :=
  match part? fields key with
  | none => some []
  | some p => p.elements?

/-- The field is there and counts as true. -/
def holds (fields : Fields) (key : String) : Bool :=
  ((Fields.get? key fields).map isTruthy).getD false

/-! ### Rows of pieces -/

section

variable {n : Nat}

/-- Rows of pieces with a text between them. -/
def joined (separator : String) (rows : List (List (Piece n))) : List (Piece n) :=
  (rows.intersperse [.text separator]).flatten

/-- Parts with a text between them. -/
def joinedParts (separator : String) (ps : List (Part n)) : List (Piece n) :=
  joined separator (ps.map fun p => [.part p])

/-- A declared variable, with its initial value if it has one. -/
def declarator? (p : Part n) : Option (List (Piece n)) := do
  let _ ← p.value.fields?
  let id ← p.get? "id"
  match p.getNonNull? "init" with
  | none => return [.part id]
  | some init => return [.part id, .text " = ", .part init]

/-- How a specifier stands in an import: before the braces, or between them. -/
inductive Clause (n : Nat) where
  | bare (pieces : List (Piece n))
  | braced (p : Part n)

/-- The clause of one specifier. -/
def clause? (p : Part n) : Option (Clause n) := do
  let fields ← p.value.fields?
  match Fields.get? "type" fields with
  | some (.str "ImportDefaultSpecifier") => return .bare [.part (← p.get? "local")]
  | some (.str "ImportNamespaceSpecifier") =>
    return .bare [.text "* as ", .part (← p.get? "local")]
  | _ => return .braced p

/-- The clauses of an import: the bare ones in order, then the braced ones together. -/
def clauses (cs : List (Clause n)) : List (List (Piece n)) :=
  let bare := cs.filterMap fun
    | .bare pieces => some pieces
    | .braced _ => none
  let braced := cs.filterMap fun
    | .bare _ => none
    | .braced p => some p
  match braced with
  | [] => bare
  | ps => bare ++ [[.text "\x7b"] ++ joinedParts ", " ps ++ [.text "\x7d"]]

end

/-! ### Layouts by kind -/

section

variable (fields : Fields)

/-- The layout of an operation on two operands. -/
def binaryLayout? : Option (List (Piece (partBound fields))) := do
  let left ← part? fields "left"
  let operator ← Fields.get? "operator" fields
  let right ← part? fields "right"
  return [.part left, .text (" " ++ operator.display ++ " "), .part right]

/-- The layout of a literal: its source text, or else its value. -/
def literalLayout : List (Piece (partBound fields)) :=
  match Fields.get? "raw" fields with
  | some (.str raw) => [.text raw]
  | _ => [.text (Json.write none ((Fields.get? "value" fields).getD .null))]

/-- The layout of an import declaration. -/
def importLayout? : Option (List (Piece (partBound fields))) := do
  let specifiers ← parts? fields "specifiers"
  let cs ← specifiers.mapM clause?
  let source ← part? fields "source"
  match clauses cs with
  | [] => return [.text "import ", .part source, .text ";"]
  | rows =>
    return [.text "import "] ++ joined ", " rows ++ [.text " from ", .part source, .text ";"]

/-- The layout of a node of the given kind, if that kind is shown in full and the node has the
fields that it needs. -/
def layout? (kind : String) : Option (List (Piece (partBound fields))) :=
  match kind with
  | "Identifier" => do
    return [.text (← Fields.get? "name" fields).display]
  | "Literal" => some (literalLayout fields)
  | "CallExpression" => do
    let arguments ← parts? fields "arguments"
    let callee ← part? fields "callee"
    return [.part callee, .text "("] ++ joinedParts ", " arguments ++ [.text ")"]
  | "MemberExpression" => do
    let object ← part? fields "object"
    let property ← part? fields "property"
    if holds fields "computed" then
      return [.part object, .text "[", .part property, .text "]"]
    else
      return [.part object, .text ".", .part property]
  | "UnaryExpression" => do
    let operator ← (Fields.get? "operator" fields).bind text?
    let argument ← part? fields "argument"
    return [.text (operator ++ if Text.isWord operator then " " else ""), .part argument]
  | "AssignmentExpression" => binaryLayout? fields
  | "BinaryExpression" => binaryLayout? fields
  | "LogicalExpression" => binaryLayout? fields
  | "ExpressionStatement" => do
    return [.part (← part? fields "expression"), .text ";"]
  | "BlockStatement" => do
    return [.block (← parts? fields "body")]
  | "IfStatement" => do
    let test ← part? fields "test"
    let consequent ← part? fields "consequent"
    let alternate ←
      if holds fields "alternate" then
        (part? fields "alternate").map fun p => [.text " else ", .part p]
      else some []
    return [.text "if (", .part test, .text ") ", .part consequent] ++ alternate
  | "ReturnStatement" =>
    match part? fields "argument" with
    | none | some ⟨.null, _⟩ => some [.text "return;"]
    | some argument => some [.text "return ", .part argument, .text ";"]
  | "VariableDeclaration" => do
    let declarations ← parts? fields "declarations"
    let rows ← declarations.mapM declarator?
    let kind ← Fields.get? "kind" fields
    return [.text (kind.display ++ " ")] ++ joined ", " rows ++ [.text ";"]
  | "ObjectPattern" => do
    let properties ← parts? fields "properties"
    return [.text "\x7b"] ++ joinedParts ", " properties ++ [.text "\x7d"]
  | "Property" => do
    let value ← part? fields "value"
    if holds fields "shorthand" then return [.part value]
    else return [.part (← part? fields "key"), .text ": ", .part value]
  | "ImportSpecifier" => do
    return [.binding (← part? fields "imported") (part? fields "local")]
  | "ImportDeclaration" => importLayout? fields
  | "FunctionDeclaration" => do
    let parameters ← parts? fields "params"
    let body ← part? fields "body"
    let name := match part? fields "id" with
      | none => []
      | some id => [.part id]
    return [.text "function "] ++ name ++ [.text "("] ++ joinedParts ", " parameters ++
      [.text ") ", .part body]
  | "Program" => do
    return joinedParts "\n" (← parts? fields "body")
  | _ => none

end

end ComponentLookup
