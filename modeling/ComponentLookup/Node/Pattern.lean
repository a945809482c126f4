import ComponentLookup.Node.Basic

/-!
# Shapes of compiled documents

The program compiled from a document has a known outline.  It starts with the import of the runtime,
`import {...} from "<...>jsx-runtime"`, and declares a function:

    function MDXContent(props) {
      function _createMdxContent(props) {
        const {Foo} = _components;
        if (!Foo) _missingMdxReference("Foo", true);
        ...
      }
    }

The functions below recognise its parts one by one.  A node that deviates is not recognised; only a
value that is no object where a node was promised, or a specifier list that cannot be enumerated,
is an error.
-/

namespace ComponentLookup

open Json

namespace Node

/-! ### Functions -/

/-- The name of an identifier, if it is a text. -/
def identifierName? (v : Json) : Option String :=
  if v.isKind "Identifier" then (v.get? "name").bind text? else none

/-- The declared name of a function. -/
def functionName? (v : Json) : Option String :=
  if v.isNode then (v.get? "id").bind identifierName? else none

/-- The value declares a function of the given name. -/
def isFunctionNamed (v : Json) (name : String) : Bool :=
  v.isKind "FunctionDeclaration" && functionName? v == some name

/-- The statements of a block. -/
def blockStatements? (v : Json) : Option (List Json) :=
  if v.isKind "BlockStatement" then (v.get? "body").bind items? else none

/-- The statements of a function whose body is a block. -/
def bodyStatements (function : Json) : Except ShapeError (Option (List Json)) := do
  return (← function.field? "body").bind blockStatements?

/-- The first function of the given name that is declared directly in a function's body. -/
def nestedFunction (function : Json) (name : String) : Except ShapeError (Option Json) := do
  return ((← bodyStatements function).getD []).find? (isFunctionNamed · name)

/-! ### Imports -/

/-- The module that an import declaration names. -/
def importSource (declaration : Json) : Except ShapeError (Option String) := do
  return ((← declaration.field? "source").bind (get? · "value")).bind text?

/-- The specifier binds the given local name. -/
def bindsLocal (name : String) (specifier : Json) : Bool :=
  match specifier.get? "local" with
  | some binding => identifierName? binding == some name
  | none => false

/-- Some specifier of an import declaration binds the given local name. -/
def importsLocal (declaration : Json) (name : String) : Except ShapeError Bool := do
  match ← declaration.field? "specifiers" with
  | none => return false
  | some specifiers =>
    if specifiers.isTruthy then return (← specifiers.elements).any (bindsLocal name)
    else return false

/-! ### Missing-reference checks -/

/-- A call whose callee is a bare identifier. -/
structure IdentifierCall where
  call : Json
  callee : Json
  arguments : List Json

/-- Recognises a call of a bare identifier with a list of arguments. -/
def identifierCall? (expression : Json) : Option IdentifierCall := do
  guard (expression.isKind "CallExpression")
  let callee ← expression.get? "callee"
  guard (callee.isKind "Identifier")
  let arguments ← (expression.get? "arguments").bind items?
  return { call := expression, callee, arguments }

/-- A statement `if (!Foo) <expression>;`. -/
structure MissingReferenceCheck where
  statement : Json
  identifier : Json
  expressionStatement : Json
  expression : Json

/-- The only statement of a branch, if it is an expression: the branch itself, or what stands alone
between its braces. -/
def soleExpressionStatement? (branch : Json) : Option Json :=
  if branch.isKind "ExpressionStatement" then some branch
  else
    match blockStatements? branch with
    | some [statement] => if statement.isKind "ExpressionStatement" then some statement else none
    | _ => none

/-- The identifier that a test negates. -/
def negatedIdentifier? (test : Json) : Option Json := do
  guard (test.isKind "UnaryExpression")
  guard ((← (test.get? "operator").bind text?) == "!")
  let argument ← test.get? "argument"
  guard (argument.isKind "Identifier")
  return argument

/-- Recognises `if (!Foo) <expression>;`, with or without braces.  A further branch does not
matter. -/
def missingReferenceCheck? (statement : Json) : Option MissingReferenceCheck := do
  guard (statement.isKind "IfStatement")
  let identifier ← (statement.get? "test").bind negatedIdentifier?
  let expressionStatement ← (statement.get? "consequent").bind soleExpressionStatement?
  let expression ← expressionStatement.get? "expression"
  guard expression.isNode
  return { statement, identifier, expressionStatement, expression }

end Node

end ComponentLookup
