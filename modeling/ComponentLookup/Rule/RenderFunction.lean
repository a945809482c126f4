import ComponentLookup.Node.Pattern
import ComponentLookup.Node.Render
import ComponentLookup.Rule.Basic

/-!
# The render function

A component that is neither imported nor passed in is guarded by an assertion at the top of the
render body.  The rule turns the assertion into a call of the resolver and makes the declared
names assignable:

    const {Foo} = _components;
    if (!Foo) _missingMdxReference("Foo", true);

becomes

    let {Foo} = _components;
    if (!Foo) Foo = _resolveComponent("Foo");

The helper function that the assertions called is removed.

`ReferenceScan.statements` handles the statements of the render body from the top; the first one
that is neither a declaration nor an assertion ends the scan.
-/

namespace ComponentLookup

open Json

/-! ### Single statements -/

namespace ReferenceScan

/-- The kind of declaration whose names can be assigned. -/
def assignableKind : String := "let"

/-- The declaration made assignable. -/
def relax (declaration : Json) : Json := declaration.set "kind" (.str assignableKind)

/-- The call of the assertion turned into a call of the resolver: another callee, and without the
second argument. -/
def resolverCall (localName : String) (m : Node.IdentifierCall) : Json :=
  (m.call.set "callee" (m.callee.set "name" (.str localName))).set "arguments"
    (.arr (m.arguments.eraseIdx 1))

/-- Replaces the expression of the only statement of a branch. -/
def putBranchExpression (branch expression : Json) : Json :=
  if branch.isKind "ExpressionStatement" then branch.set "expression" expression
  else
    match Node.blockStatements? branch with
    | some [statement] => branch.set "body" (.arr [statement.set "expression" expression])
    | _ => branch

/-- The assertion turned into an assignment. -/
def resolve (localName : String) (check : Node.MissingReferenceCheck) (m : Node.IdentifierCall) :
    Json :=
  match check.statement.get? "consequent" with
  | some branch =>
    check.statement.set "consequent" (putBranchExpression branch
      (Node.assignment check.identifier (resolverCall localName m) (.str "=")))
  | none => check.statement

/-- What the scan makes of one statement: the statement and the context afterwards, and the number
of assertions resolved; nothing if the scan ends here. -/
def statement? (index : Nat) (statement : Json) (ctx : Context) :
    Option (Json × Context × Nat) :=
  if statement.isKind "VariableDeclaration" then
    if (statement.get? "kind").bind text? = some assignableKind then some (statement, ctx, 0)
    else
      let relaxed := relax statement
      some (relaxed, (ctx.count "declarations_relaxed" 1).traced (·.logMutation
        { nodeType := "VariableDeclaration", before := Node.render statement
          after := Node.render relaxed, index := some index }), 0)
  else
    match Node.missingReferenceCheck? statement with
    | none => none
    | some check =>
      match Node.identifierCall? check.expression with
      | none =>
        some (statement, ctx.traced (·.logInspection (Node.render statement) "unchanged"
          "consequent is not an identifier call"), 0)
      | some m =>
        let resolved := resolve ctx.config.resolverLocalName check m
        some (resolved, ctx.traced (·.logMutation
          { nodeType := "IfStatement", before := Node.render statement
            after := Node.render resolved, index := some index }), 1)

/-! ### The scan -/

/-- Handles statements from an index on, up to the first one that ends the scan; returns the number
of assertions resolved. -/
def scan : Nat → List Json → Context → List Json × Context × Nat
  | _, [], ctx => ([], ctx, 0)
  | index, statement :: rest, ctx =>
    match statement? index statement ctx with
    | none => (statement :: rest, ctx, 0)
    | some (statement, ctx, n) =>
      let (rest, ctx, m) := scan (index + 1) rest ctx
      (statement :: rest, ctx, n + m)

/-- Handles the statements of a render body, and counts the assertions resolved. -/
def statements (body : List Json) (ctx : Context) : List Json × Context × Nat :=
  let (body, ctx, n) := scan 0 body ctx
  (body, ctx.count "checks_rewritten" n, n)

/-- Handles any value in the place of a statement list.  Its elements are looked at all the same,
but only those of a list can be nodes. -/
def value (v : Json) (ctx : Context) : Except ShapeError (Json × Context × Nat) :=
  match v with
  | .arr body =>
    let (body, ctx, n) := statements body ctx
    .ok (.arr body, ctx, n)
  | v => do
    let _ ← v.elements
    return (v, ctx.count "checks_rewritten" 0, 0)

end ReferenceScan

/-! ### The function declaration -/

namespace RenderFunction

/-- Replaces the statements of a function. -/
def putBody (function : Json) (statements : List Json) : Json :=
  match function.get? "body" with
  | some block => function.set "body" (block.set "body" (.arr statements))
  | none => function

/-- Replaces the first statement that satisfies a test. -/
def replaceFirst (test : Json → Bool) (new : Json) : List Json → List Json
  | [] => []
  | v :: rest => if test v then new :: rest else v :: replaceFirst test new rest

/-- Replaces the render body that is nested in the entry function. -/
def putRenderBody (entry : Json) (name : String) (body : Json) : Json :=
  match Node.bodyStatements entry with
  | .ok (some statements) =>
    putBody entry (replaceFirst (Node.isFunctionNamed · name) body statements)
  | _ => entry

/-- The render body nested in the entry function, with its statements. -/
def renderBody (entry : Json) (name : String) : Except ShapeError (Option (Json × List Json)) := do
  match ← Node.nestedFunction entry name with
  | none => return none
  | some body => return (← Node.bodyStatements body).map fun inner => (body, inner)

/-- Handles the entry function. -/
def applyToEntry (node : Json) (name : String) (ctx : Context) : RuleReply :=
  let bodyName := ctx.config.renderBodyName
  match renderBody node bodyName with
  | .error e => ⟨node, ctx, .error e⟩
  | .ok none =>
    ⟨node, (ctx.report .warning
      ("'" ++ name ++ "' has no nested '" ++ bodyName ++ "' function; left unchanged.")).traced
        (·.logWarning ("Missing '" ++ bodyName ++ "' in '" ++ name ++ "'")), .ok (some .skip)⟩
  | .ok (some (body, inner)) =>
    let ctx := ctx.traced (·.startPhase "Component References" ("Rewriting '" ++ bodyName ++ "'"))
    let (inner, ctx, _) := ReferenceScan.statements inner ctx
    ⟨putRenderBody node bodyName (putBody body inner), ctx.traced (·.endPhase), .ok (some .skip)⟩

/-- Handles a function declaration: the entry function is resolved, the helper is removed, and
every other function stays as it is. -/
def apply (node : Json) (ctx : Context) : RuleReply :=
  match Node.functionName? node with
  | none => ⟨node, ctx, .ok (some .skip)⟩
  | some name =>
    if name = ctx.config.renderEntryName then applyToEntry node name ctx
    else if name = ctx.config.missingReferenceName then
      ⟨node, (ctx.count "helpers_removed" 1).traced (·.logMutation
        { nodeType := "FunctionDeclaration", before := "function " ++ name ++ "(...)"
          after := "", index := none }), .ok (some .remove)⟩
    else ⟨node, ctx, .ok (some .skip)⟩

/-- The rule for function declarations. -/
def rule : Rule where
  name := "rewrite_render_function"
  apply := apply
  growth := 0

end RenderFunction

end ComponentLookup
