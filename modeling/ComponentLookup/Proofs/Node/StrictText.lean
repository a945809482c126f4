import ComponentLookup.Node.Render
import ComponentLookup.Proofs.Json.LongIntegers
import ComponentLookup.Proofs.Node.Pattern

/-!
# Strict texts

The text of a node is its layout filled in, and a node that lacks something has no layout
(`ComponentLookup.Node.Layout`).  Here the text of each kind of node is put together step by step,
and each step that needs something fails where it is not there: a field that is absent, fields or
elements of a value that has none, the letters of a value that is no text, an integer that is too
long to be written (`StepFault`).  A failure is made good at the node whose text it is, by its type
in angle brackets, but for that of a long integer (`Strict.text`).

* `Strict.toOption_renderer?` : where every value has letters, **a text comes about just if there is
  a layout**, and then it is the layout filled in, whatever the texts of the parts are.
-/

namespace ComponentLookup

open Json

namespace Node

namespace Strict

/-! ### Reads -/

section

variable {n : Nat} (text : Part n → Except StepFault String)

/-- A field that has to be there. -/
def present (key : String) : Option (Part n) → Except StepFault (Part n)
  | some p => .ok p
  | none => .error (.absent key)

/-- The value of a field that may be absent; only an object has fields. -/
def fieldOf (v : Json) (key : String) : Except StepFault (Option Json) :=
  StepFault.ofRead (v.field? key)

/-- The text of a field of a part that has to be there. -/
def textIn (p : Part n) (key : String) : Except StepFault String := do
  text (← present key (p.get? key))

/-- The elements of a part. -/
def elements (p : Part n) : Except StepFault (List (Part n)) :=
  match p.elements? with
  | some ps => .ok ps
  | none => .error (.shape .noItems)

end

/-! ### Texts by kind

Parts are shown in the order in which they are asked for, and the first failure is that of the
whole. -/

/-- How values that are no nodes are put into letters. -/
structure Letters where
  /-- As a message shows them. -/
  display : Json → Except StepFault String
  /-- As JSON on one line. -/
  literal : Json → Except StepFault String

/-- Every value has letters. -/
def Letters.all : Letters where
  display v := .ok v.display
  literal v := .ok (v.write none)

/-- Values without integers that are too long have letters. -/
def Letters.short : Letters where
  display := Json.Strict.display
  literal := Json.Strict.write none

section

variable (letters : Letters) (fields : Fields)
  (text : Part (partBound fields) → Except StepFault String)

/-- The value of a field that has to be there. -/
def valueAt (key : String) : Except StepFault Json :=
  match Fields.get? key fields with
  | some v => .ok v
  | none => .error (.absent key)

/-- The text of a field that has to be there. -/
def textAt (key : String) : Except StepFault String := do
  text (← present key (part? fields key))

/-- The elements of a field; an absent field has none. -/
def elementsAt (key : String) : Except StepFault (List (Part (partBound fields))) :=
  match part? fields key with
  | none => .ok []
  | some p => elements p

/-- The texts of the elements of a field. -/
def textsAt (key : String) : Except StepFault (List String) := do
  (← elementsAt fields key).mapM text

/-- The name of an identifier. -/
def identifierText : Except StepFault String := do
  letters.display (← valueAt fields "name")

/-- The source text of a literal, or else its value. -/
def literalText : Except StepFault String :=
  match Fields.get? "raw" fields with
  | some (.str raw) => .ok raw
  | _ => letters.literal ((Fields.get? "value" fields).getD .null)

/-- A call, with its arguments put together first. -/
def callText : Except StepFault String := do
  let arguments ← textsAt fields text "arguments"
  return (← textAt fields text "callee") ++ "(" ++ ", ".intercalate arguments ++ ")"

/-- A member by its name, or by an expression in brackets. -/
def memberText : Except StepFault String := do
  if holds fields "computed" then
    return (← textAt fields text "object") ++ "[" ++ (← textAt fields text "property") ++ "]"
  else
    return (← textAt fields text "object") ++ "." ++ (← textAt fields text "property")

/-- The operator of an operation on one operand, with a blank behind a word. -/
def operatorText (operator : Json) : Except StepFault String :=
  match operator.text? with
  | some s => .ok (s ++ if Text.isWord s then " " else "")
  | none => .error .noText

/-- An operation on one operand. -/
def unaryText : Except StepFault String := do
  let operator ← operatorText (← valueAt fields "operator")
  return operator ++ (← textAt fields text "argument")

/-- An operation on two operands. -/
def binaryText : Except StepFault String := do
  return (← textAt fields text "left") ++ " " ++
    (← letters.display (← valueAt fields "operator")) ++ " " ++ (← textAt fields text "right")

/-- An expression as a statement. -/
def expressionStatementText : Except StepFault String := do
  return (← textAt fields text "expression") ++ ";"

/-- Statements between braces. -/
def blockText : Except StepFault String := do
  return braced (" ".intercalate (← textsAt fields text "body"))

/-- A condition with its branches. -/
def ifText : Except StepFault String := do
  let branch := "if (" ++ (← textAt fields text "test") ++ ") " ++
    (← textAt fields text "consequent")
  if holds fields "alternate" then
    return branch ++ " else " ++ (← textAt fields text "alternate")
  else return branch

/-- A return, with a value or without. -/
def returnText : Except StepFault String := do
  if (Fields.get? "argument" fields).all isNull then return "return;"
  else return "return " ++ (← textAt fields text "argument") ++ ";"

/-- The text of a declared variable.  It is no node of its own: its failures are those of the
declaration. -/
def declaratorText (p : Part (partBound fields)) : Except StepFault String := do
  if (← fieldOf p.value "init").all isNull then textIn text p "id"
  else return (← textIn text p "id") ++ " = " ++ (← textIn text p "init")

/-- A declaration of variables, which are put together before its kind is asked for. -/
def variableDeclarationText : Except StepFault String := do
  let rows ← (← elementsAt fields "declarations").mapM (declaratorText fields text)
  return (← letters.display (← valueAt fields "kind")) ++ " " ++ ", ".intercalate rows ++ ";"

/-- The names that an object is taken apart into. -/
def objectPatternText : Except StepFault String := do
  return "\x7b" ++ ", ".intercalate (← textsAt fields text "properties") ++ "\x7d"

/-- A property, by its value alone where it is written short. -/
def propertyText : Except StepFault String := do
  if holds fields "shorthand" then textAt fields text "value"
  else return (← textAt fields text "key") ++ ": " ++ (← textAt fields text "value")

/-- The text of a field, empty if it is absent. -/
def textAt? (key : String) : Except StepFault String :=
  match part? fields key with
  | none => .ok ""
  | some p => text p

/-- An imported name, with the local one where that is another. -/
def importSpecifierText : Except StepFault String := do
  return aliased (← textAt fields text "imported") (← textAt? fields text "local")

/-- The text of a specifier, and whether it stands in braces. -/
def clauseText (p : Part (partBound fields)) : Except StepFault (Bool × String) := do
  match ← fieldOf p.value "type" with
  | some (.str "ImportDefaultSpecifier") => return (false, ← textIn text p "local")
  | some (.str "ImportNamespaceSpecifier") => return (false, "* as " ++ (← textIn text p "local"))
  | _ => return (true, ← text p)

/-- The clauses of an import, those in braces together behind the others. -/
def clauseRows (cs : List (Bool × String)) : List String :=
  let named := (cs.filter (·.1)).map (·.2)
  (cs.filter (!·.1)).map (·.2) ++
    if named.isEmpty then [] else ["\x7b" ++ ", ".intercalate named ++ "\x7d"]

/-- An import, with its clauses if it has any. -/
def importDeclarationText : Except StepFault String := do
  let rows := clauseRows (← (← elementsAt fields "specifiers").mapM (clauseText fields text))
  let source ← textAt fields text "source"
  if rows.isEmpty then return "import " ++ source ++ ";"
  else return "import " ++ ", ".intercalate rows ++ " from " ++ source ++ ";"

/-- A function, with its name if it has one. -/
def functionText : Except StepFault String := do
  let name ← textAt? fields text "id"
  let parameters ← textsAt fields text "params"
  return "function " ++ name ++ "(" ++ ", ".intercalate parameters ++ ") " ++
    (← textAt fields text "body")

/-- The statements of a program on lines of their own. -/
def programText : Except StepFault String := do
  return "\n".intercalate (← textsAt fields text "body")

end

/-- A way to put together the text of a node, from letters and from the texts of its parts. -/
abbrev Renderer := Letters → (fields : Fields) →
  (Part (partBound fields) → Except StepFault String) → Except StepFault String

/-- How the nodes of a kind are shown that is shown in full. -/
def renderer? : String → Option Renderer
  | "Identifier" => some (fun letters fields _ => identifierText letters fields)
  | "Literal" => some (fun letters fields _ => literalText letters fields)
  | "CallExpression" => some (fun _ => callText)
  | "MemberExpression" => some (fun _ => memberText)
  | "UnaryExpression" => some (fun _ => unaryText)
  | "AssignmentExpression" => some binaryText
  | "BinaryExpression" => some binaryText
  | "LogicalExpression" => some binaryText
  | "ExpressionStatement" => some (fun _ => expressionStatementText)
  | "BlockStatement" => some (fun _ => blockText)
  | "IfStatement" => some (fun _ => ifText)
  | "ReturnStatement" => some (fun _ => returnText)
  | "VariableDeclaration" => some variableDeclarationText
  | "ObjectPattern" => some (fun _ => objectPatternText)
  | "Property" => some (fun _ => propertyText)
  | "ImportSpecifier" => some (fun _ => importSpecifierText)
  | "ImportDeclaration" => some (fun _ => importDeclarationText)
  | "FunctionDeclaration" => some (fun _ => functionText)
  | "Program" => some (fun _ => programText)
  | _ => none

/-! ### Texts of values -/

/-- What stands for a node that is not shown in full. -/
def placeholder (fields : Fields) : Except StepFault String :=
  match Fields.get? "type" fields with
  | some type =>
    if type.isTruthy then do return "<" ++ (← Json.Strict.display type) ++ ">"
    else .ok "<Unknown>"
  | none => .ok "<Unknown>"

/-- The type of a node stands in for its text where that fails; for an integer that is too long
nothing does. -/
def rescue (kind : String) : Except StepFault String → Except StepFault String
  | .error (.absent _) | .error (.shape _) | .error .noText => .ok ("<" ++ kind ++ ">")
  | outcome => outcome

/-- The text of a value.  Only a node of a kind that is shown in full stands in for a failure. -/
def text : Json → Except StepFault String
  | .null => .ok ""
  | .obj fields => do
    match ← fieldOf (.obj fields) "type" with
    | some (.str kind) =>
      match renderer? kind with
      | some renderer => rescue kind (renderer .short fields fun p => text p.value)
      | none => placeholder fields
    | _ => placeholder fields
  | v => .ok ("<" ++ v.kindName ++ ">")
termination_by v => v.size
decreasing_by exact p.smaller

end Strict

/-! ### Layouts filled in -/

section

variable {n : Nat} (t : Json → String)

/-- The text of a piece, from the texts of values. -/
def filled : Piece n → String
  | .text s => s
  | .part p => t p.value
  | .block statements => braced (" ".intercalate (statements.map fun p => t p.value))
  | .binding imported none => t imported.value
  | .binding imported (some localName) => aliased (t imported.value) (t localName.value)

/-- The text of a row of pieces. -/
def fill (pieces : List (Piece n)) : String := String.join (pieces.map (filled t))

@[simp] theorem fill_nil : fill t ([] : List (Piece n)) = "" := rfl

@[simp] theorem fill_cons (piece : Piece n) (pieces : List (Piece n)) :
    fill t (piece :: pieces) = filled t piece ++ fill t pieces := by
  rw [fill, List.map_cons, String.join_cons]
  rfl

@[simp] theorem fill_append (pieces pieces' : List (Piece n)) :
    fill t (pieces ++ pieces') = fill t pieces ++ fill t pieces' := by
  induction pieces with
  | nil => simp
  | cons piece pieces ih => simp [ih, String.append_assoc]

@[simp] theorem fill_joined (separator : String) (rows : List (List (Piece n))) :
    fill t (joined separator rows) = separator.intercalate (rows.map (fill t)) := by
  induction rows with
  | nil => rfl
  | cons row rows ih =>
    cases rows with
    | nil => simp [joined]
    | cons row' rows =>
      rw [List.map_cons, List.map_cons, String.intercalate_cons_cons, ← List.map_cons, ← ih, joined,
        List.intersperse_cons_cons, List.flatten_cons, List.flatten_cons, fill_append, fill_append,
        fill_cons, fill_nil, String.append_empty, String.append_assoc]
      rfl

@[simp] theorem fill_joinedParts (separator : String) (ps : List (Part n)) :
    fill t (joinedParts separator ps) = separator.intercalate (ps.map fun p => t p.value) := by
  rw [joinedParts, fill_joined, List.map_map]
  exact congrArg _ (List.map_congr_left fun p _ => by simp [filled])

end

namespace Strict

/-! ### Texts of parts that have texts -/

section

variable {α β : Type} {ε : Type}

@[simp] theorem toOption_ok (a : α) : (.ok a : Except ε α).toOption = some a := rfl

@[simp] theorem toOption_pure (a : α) : (pure a : Except ε α).toOption = some a := rfl

@[simp] theorem toOption_bind (x : Except ε α) (f : α → Except ε β) :
    (x >>= f).toOption = x.toOption.bind fun a => (f a).toOption := by
  cases x <;> rfl

@[simp] theorem toOption_map (x : Except ε α) (f : α → β) :
    (f <$> x).toOption = x.toOption.map f := by
  cases x <;> rfl

theorem toOption_mapM {γ : Type} {f : α → Except ε β} {f' : α → Option γ} {g : γ → β}
    (h : ∀ a, (f a).toOption = (f' a).map g) (xs : List α) :
    (xs.mapM f).toOption = (xs.mapM f').map (List.map g) := by
  induction xs with
  | nil => rfl
  | cons x xs ih =>
    simp only [List.mapM_cons, toOption_bind, h, ih, toOption_pure]
    cases f' x <;> cases xs.mapM f' <;> rfl

end

section

variable {n : Nat} (t : Json → String)

/-- The text of a part that has one. -/
def shown (p : Part n) : Except StepFault String := .ok (t p.value)

@[simp] theorem toOption_shown (p : Part n) : (shown t p).toOption = some (t p.value) := rfl

theorem toOption_mapM_shown (ps : List (Part n)) :
    (ps.mapM (shown t)).toOption = some (ps.map fun p => t p.value) :=
  congrArg Except.toOption List.mapM_pure

@[simp] theorem toOption_present (key : String) (p : Option (Part n)) :
    (present key p).toOption = p := by
  cases p <;> rfl

@[simp] theorem toOption_elements (p : Part n) : (elements p).toOption = p.elements? := by
  rw [elements]
  cases p.elements? <;> rfl

@[simp] theorem map_value_get? (p : Part n) (key : String) :
    (p.get? key).map Part.value = p.value.get? key := by
  unfold Part.get?
  split <;> simp [*]

@[simp] theorem toOption_textIn (p : Part n) (key : String) :
    (textIn (shown t) p key).toOption = (p.get? key).map fun w => t w.value := by
  simp [textIn, Option.map_eq_bind]

theorem field?_of_fields? {v : Json} {key : String} {inner : Fields} (h : v.fields? = some inner) :
    v.field? key = .ok (v.get? key) := by
  cases v with
  | obj _ => rfl
  | _ => cases h

theorem toOption_fieldOf (v : Json) (key : String) :
    (fieldOf v key).toOption = v.fields?.map (Fields.get? key) := by
  cases v <;> rfl

variable (fields : Fields)

theorem map_value_part? (key : String) :
    (part? fields key).map Part.value = Fields.get? key fields := by
  unfold part?
  split <;> simp [*]

@[simp] theorem toOption_elementsAt (key : String) :
    (elementsAt fields key).toOption = parts? fields key := by
  rw [elementsAt, parts?]
  cases part? fields key with
  | none => rfl
  | some p => exact toOption_elements p

@[simp] theorem toOption_textAt (key : String) :
    (textAt fields (shown t) key).toOption = (part? fields key).map fun p => t p.value := by
  simp [textAt, Option.map_eq_bind]

@[simp] theorem toOption_textsAt (key : String) :
    (textsAt fields (shown t) key).toOption =
      (parts? fields key).map fun ps => ps.map fun p => t p.value := by
  simp [textsAt, toOption_mapM_shown, Option.map_eq_bind]

@[simp] theorem toOption_valueAt (key : String) :
    (valueAt fields key).toOption = Fields.get? key fields := by
  rw [valueAt]
  cases Fields.get? key fields <;> rfl

@[simp] theorem toOption_textAt? (key : String) :
    (textAt? fields (shown t) key).toOption =
      some (((part? fields key).map fun p => t p.value).getD "") := by
  rw [textAt?]
  cases part? fields key <;> rfl

@[simp] theorem toOption_operatorText (v : Json) : (operatorText v).toOption =
    v.text?.map fun s => s ++ if Text.isWord s then " " else "" := by
  rw [operatorText]
  cases v.text? <;> rfl

@[simp] theorem toOption_display_all (v : Json) :
    (Letters.all.display v).toOption = some v.display := rfl

@[simp] theorem toOption_literal_all (v : Json) :
    (Letters.all.literal v).toOption = some (v.write none) := rfl

theorem toOption_identifierText : (identifierText .all fields).toOption =
    (layout? fields "Identifier").map (fill t) := by
  simp [identifierText, layout?, filled, Option.map_eq_bind, Option.bind_assoc]

theorem toOption_literalText : (literalText .all fields).toOption =
    (layout? fields "Literal").map (fill t) := by
  cases h : Fields.get? "raw" fields with
  | none => simp [literalText, layout?, literalLayout, h, filled]
  | some raw => cases raw <;> simp [literalText, layout?, literalLayout, h, filled]

theorem toOption_callText : (callText fields (shown t)).toOption =
    (layout? fields "CallExpression").map (fill t) := by
  simp [callText, layout?, filled, String.append_assoc, Option.map_eq_bind, Option.bind_assoc]

theorem toOption_memberText : (memberText fields (shown t)).toOption =
    (layout? fields "MemberExpression").map (fill t) := by
  unfold memberText
  split_ifs with h <;>
    simp [layout?, h, filled, String.append_assoc, Option.map_eq_bind, Option.bind_assoc]

theorem toOption_unaryText : (unaryText fields (shown t)).toOption =
    (layout? fields "UnaryExpression").map (fill t) := by
  simp [unaryText, layout?, filled, String.append_assoc, Option.map_eq_bind, Option.bind_assoc]

theorem toOption_binaryText : (binaryText .all fields (shown t)).toOption =
    (binaryLayout? fields).map (fill t) := by
  simp [binaryText, binaryLayout?, filled, String.append_assoc, Option.map_eq_bind,
    Option.bind_assoc]

theorem toOption_expressionStatementText : (expressionStatementText fields (shown t)).toOption =
    (layout? fields "ExpressionStatement").map (fill t) := by
  simp [expressionStatementText, layout?, filled, Option.map_eq_bind, Option.bind_assoc]

theorem toOption_blockText : (blockText fields (shown t)).toOption =
    (layout? fields "BlockStatement").map (fill t) := by
  simp [blockText, layout?, filled, Option.map_eq_bind, Option.bind_assoc]

theorem toOption_ifText : (ifText fields (shown t)).toOption =
    (layout? fields "IfStatement").map (fill t) := by
  unfold ifText
  split_ifs with h <;>
    simp [layout?, h, filled, String.append_assoc, Option.map_eq_bind, Option.bind_assoc]

theorem toOption_returnText : (returnText fields (shown t)).toOption =
    (layout? fields "ReturnStatement").map (fill t) := by
  simp only [returnText, layout?, ← map_value_part?]
  cases h : part? fields "argument" with
  | none => simp [filled]
  | some p =>
    obtain ⟨v, _⟩ := p
    cases v <;> simp [h, filled, isNull, String.append_assoc]

theorem toOption_declaratorText (p : Part (partBound fields)) :
    (declaratorText fields (shown t) p).toOption = (declarator? p).map (fill t) := by
  cases hfields : p.value.fields? with
  | none => simp [declaratorText, declarator?, toOption_fieldOf, hfields]
  | some inner =>
    have hread : fieldOf p.value "init" = .ok ((p.get? "init").map Part.value) := by
      rw [map_value_get?, fieldOf, field?_of_fields? hfields]
      rfl
    simp only [declaratorText, declarator?, hread, hfields, toOption_bind, toOption_ok,
      Option.bind_some]
    rcases hinit : p.get? "init" with _ | ⟨v, hv⟩
    · simp [Part.getNonNull?, hinit, filled, Option.map_eq_bind, Option.bind_assoc]
    · cases v <;>
        simp [Part.getNonNull?, hinit, isNull, filled, String.append_assoc, Option.map_eq_bind,
          Option.bind_assoc]

theorem toOption_variableDeclarationText :
    (variableDeclarationText .all fields (shown t)).toOption =
      (layout? fields "VariableDeclaration").map (fill t) := by
  simp [variableDeclarationText, toOption_mapM (toOption_declaratorText t fields), layout?, filled,
    String.append_assoc, Option.map_eq_bind, Option.bind_assoc]

theorem toOption_objectPatternText : (objectPatternText fields (shown t)).toOption =
    (layout? fields "ObjectPattern").map (fill t) := by
  simp [objectPatternText, layout?, filled, String.append_assoc, Option.map_eq_bind,
    Option.bind_assoc]

theorem toOption_propertyText : (propertyText fields (shown t)).toOption =
    (layout? fields "Property").map (fill t) := by
  unfold propertyText
  split_ifs with h
  · simp [layout?, h, filled, Option.map_eq_bind, Option.bind_assoc]
  · cases hkey : part? fields "key" <;> cases hvalue : part? fields "value" <;>
      simp [layout?, h, hkey, hvalue, filled, String.append_assoc]

theorem toOption_importSpecifierText : (importSpecifierText fields (shown t)).toOption =
    (layout? fields "ImportSpecifier").map (fill t) := by
  cases h : part? fields "local" <;>
    simp [importSpecifierText, layout?, h, filled, aliased, Option.map_eq_bind, Option.bind_assoc]

/-- The clauses that stand before the braces. -/
def bareClauses (cs : List (Clause n)) : List (List (Piece n)) :=
  cs.filterMap fun
    | .bare pieces => some pieces
    | .braced _ => none

/-- The specifiers that stand in braces. -/
def bracedClauses (cs : List (Clause n)) : List (Part n) :=
  cs.filterMap fun
    | .bare _ => none
    | .braced p => some p

theorem clauses_eq (cs : List (Clause n)) : clauses cs = bareClauses cs ++
    if (bracedClauses cs).isEmpty then []
    else [[.text "\x7b"] ++ joinedParts ", " (bracedClauses cs) ++ [.text "\x7d"]] := by
  unfold clauses
  dsimp only
  split
  · next heq =>
    have hnone : bracedClauses cs = [] := heq
    rw [hnone, List.isEmpty_nil, if_pos rfl, List.append_nil]
    rfl
  · next hne =>
    have hsome : ¬ (bracedClauses cs).isEmpty = true := fun h => hne (List.isEmpty_iff.1 h)
    rw [if_neg hsome]
    rfl

/-- The text of a clause, and whether it stands in braces. -/
def filledClause : Clause (partBound fields) → Bool × String
  | .bare pieces => (false, fill t pieces)
  | .braced p => (true, t p.value)

theorem toOption_clauseText (p : Part (partBound fields)) :
    (clauseText fields (shown t) p).toOption = (clause? p).map (filledClause t fields) := by
  cases hfields : p.value.fields? with
  | none => simp [clauseText, clause?, toOption_fieldOf, hfields]
  | some inner =>
    simp only [clauseText, clause?, toOption_bind, toOption_fieldOf, hfields, Option.map_some,
      Option.bind_some]
    split
    · next h => simp [h, filled, filledClause, Option.map_eq_bind, Option.bind_assoc]
    · next h => simp [h, filled, filledClause, Option.map_eq_bind, Option.bind_assoc]
    · next h h' => simp [filledClause]

theorem map_bareClauses (cs : List (Clause (partBound fields))) :
    ((cs.map (filledClause t fields)).filter (!·.1)).map (·.2) = (bareClauses cs).map (fill t) := by
  induction cs with
  | nil => rfl
  | cons c cs ih => cases c <;> simpa [filledClause, bareClauses] using ih

theorem map_bracedClauses (cs : List (Clause (partBound fields))) :
    ((cs.map (filledClause t fields)).filter (·.1)).map (·.2) =
      (bracedClauses cs).map fun p => t p.value := by
  induction cs with
  | nil => rfl
  | cons c cs ih => cases c <;> simpa [filledClause, bracedClauses] using ih

theorem clauseRows_map (cs : List (Clause (partBound fields))) :
    clauseRows (cs.map (filledClause t fields)) = (clauses cs).map (fill t) := by
  rw [clauseRows, map_bareClauses, map_bracedClauses, clauses_eq]
  cases bracedClauses cs <;> simp [filled, String.append_assoc]

theorem toOption_importDeclarationText : (importDeclarationText fields (shown t)).toOption =
    (layout? fields "ImportDeclaration").map (fill t) := by
  change _ = (importLayout? fields).map (fill t)
  cases hparts : parts? fields "specifiers" with
  | none => simp [importDeclarationText, importLayout?, hparts]
  | some ps =>
    have hrows := toOption_mapM (toOption_clauseText t fields) ps
    cases hcs : ps.mapM clause? with
    | none => simp [importDeclarationText, importLayout?, hparts, hrows, hcs]
    | some cs =>
      cases hsource : part? fields "source" with
      | none => simp [importDeclarationText, importLayout?, hparts, hsource]
      | some source =>
        cases hclauses : clauses cs <;>
          simp [importDeclarationText, importLayout?, hparts, hrows, hcs, hsource, clauseRows_map,
            hclauses, filled, String.append_assoc]

theorem toOption_functionText : (functionText fields (shown t)).toOption =
    (layout? fields "FunctionDeclaration").map (fill t) := by
  cases h : part? fields "id" <;>
    simp [functionText, layout?, h, filled, String.append_assoc, Option.map_eq_bind,
      Option.bind_assoc]

theorem toOption_programText : (programText fields (shown t)).toOption =
    (layout? fields "Program").map (fill t) := by
  simp [programText, layout?, Option.map_eq_bind, Option.bind_assoc]

/-- **A text comes about just if there is a layout**, and then it is the layout filled in. -/
theorem toOption_renderer? (kind : String) :
    ((renderer? kind).bind fun renderer => (renderer .all fields (shown t)).toOption) =
      (layout? fields kind).map (fill t) := by
  unfold renderer?
  split
  · exact toOption_identifierText t fields
  · exact toOption_literalText t fields
  · exact toOption_callText t fields
  · exact toOption_memberText t fields
  · exact toOption_unaryText t fields
  · exact toOption_binaryText t fields
  · exact toOption_binaryText t fields
  · exact toOption_binaryText t fields
  · exact toOption_expressionStatementText t fields
  · exact toOption_blockText t fields
  · exact toOption_ifText t fields
  · exact toOption_returnText t fields
  · exact toOption_variableDeclarationText t fields
  · exact toOption_objectPatternText t fields
  · exact toOption_propertyText t fields
  · exact toOption_importSpecifierText t fields
  · exact toOption_importDeclarationText t fields
  · exact toOption_functionText t fields
  · exact toOption_programText t fields
  · simp [layout?, *]

end

end Strict

end Node

end ComponentLookup
