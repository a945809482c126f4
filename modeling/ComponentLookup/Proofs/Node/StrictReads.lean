import ComponentLookup.Proofs.Node.Pattern

/-!
# Strict reads

The recognisers of `ComponentLookup.Node.Pattern` look fields up with `Json.get?`, which finds
nothing in a value that has no fields.  Here every read is strict (`Json.field?`): it fails on such
a value, and a recogniser makes its checks and its reads one after another.

* `Node.Strict.functionName_eq` to `Node.Strict.missingReferenceCheck_eq` : strictness changes
  nothing, because **each read stands behind a check** that has seen an object.
* `Node.importsLocal_eq_error_iff` : the specifiers of an import are enumerated unchecked, and that
  fails on `true` and on numbers other than zero.
* `Node.recognisers_return` : so on a node every recogniser returns, but for this one case
  (`Node.not_importsLocal_returns`).
-/

namespace ComponentLookup

open Json

namespace Json

variable {v : Json} {key : String}

/-- Truth values and numbers: what is neither absent nor has any elements. -/
def isAtom : Json → Bool
  | .bool _ => true
  | .int _ => true
  | .float _ => true
  | _ => false

theorem field?_of_isNode (h : v.isNode = true) : v.field? key = .ok (v.get? key) := by
  obtain ⟨fields, rfl⟩ := exists_fields_of_isNode h
  rfl

theorem field?_of_isKind {kind : String} (h : v.isKind kind = true) :
    v.field? key = .ok (v.get? key) :=
  field?_of_isNode (isNode_of_isKind h)

/-- Of the values that count as true, those that cannot be enumerated are the atoms. -/
theorem elements_eq_error_iff {e : ShapeError} (h : v.isTruthy = true) :
    v.elements = .error e ↔ e = .noItems ∧ v.isAtom = true := by
  cases v with
  | null => cases h
  | bool | int | float =>
    exact ⟨fun heq => ⟨(Except.error.inj heq).symm, rfl⟩, fun ⟨heq, _⟩ => heq ▸ rfl⟩
  | str | arr | obj => exact iff_of_false nofun nofun

end Json

namespace Node

namespace Strict

variable {v : Json} {α : Type}

/-! ### Recognisers that read strictly -/

/-- What is recognised in a field that may be absent. -/
def inField (v : Json) (key : String) (recognise : Json → Except ShapeError (Option α)) :
    Except ShapeError (Option α) := do
  match ← v.field? key with
  | some w => recognise w
  | none => return none

/-- The name of an identifier, if it is a text. -/
def identifierName (v : Json) : Except ShapeError (Option String) := do
  if v.isKind "Identifier" then return (← v.field? "name").bind text? else return none

/-- The declared name of a function. -/
def functionName (v : Json) : Except ShapeError (Option String) := do
  if v.isNode then inField v "id" identifierName else return none

/-- The value declares a function of the given name. -/
def isFunctionNamed (v : Json) (name : String) : Except ShapeError Bool := do
  if v.isKind "FunctionDeclaration" then return (← functionName v) == some name else return false

/-- The statements of a block. -/
def blockStatements (v : Json) : Except ShapeError (Option (List Json)) := do
  if v.isKind "BlockStatement" then return (← v.field? "body").bind items? else return none

/-- The statements of a function whose body is a block. -/
def bodyStatements (function : Json) : Except ShapeError (Option (List Json)) :=
  inField function "body" blockStatements

/-- The first function of the given name that is declared directly in a function's body. -/
def nestedFunction (function : Json) (name : String) : Except ShapeError (Option Json) := do
  ((← bodyStatements function).getD []).findM? (isFunctionNamed · name)

/-- The text of a literal, or of any other object with a value. -/
def textValue (v : Json) : Except ShapeError (Option String) := do
  if v.fields?.isSome then return (← v.field? "value").bind text? else return none

/-- The module that an import declaration names. -/
def importSource (declaration : Json) : Except ShapeError (Option String) :=
  inField declaration "source" textValue

/-- The specifier binds the given local name. -/
def bindsLocal (name : String) (specifier : Json) : Except ShapeError Bool := do
  if specifier.fields?.isSome then
    return (← inField specifier "local" identifierName) == some name
  else return false

/-- Some specifier of an import declaration binds the given local name. -/
def importsLocal (declaration : Json) (name : String) : Except ShapeError Bool := do
  match ← declaration.field? "specifiers" with
  | none => return false
  | some specifiers =>
    if specifiers.isTruthy then (← specifiers.elements).anyM (bindsLocal name) else return false

/-- Recognises a call of a bare identifier with a list of arguments. -/
def identifierCall (expression : Json) : Except ShapeError (Option IdentifierCall) := do
  if expression.isKind "CallExpression" then
    let callee ← expression.field? "callee"
    let arguments ← expression.field? "arguments"
    return do
      let callee ← callee
      guard (callee.isKind "Identifier")
      return { call := expression, callee, arguments := ← arguments.bind items? }
  else return none

/-- The only statement of a branch, if it is an expression. -/
def soleExpressionStatement (branch : Json) : Except ShapeError (Option Json) := do
  if branch.isKind "ExpressionStatement" then return some branch
  else
    match ← blockStatements branch with
    | some [statement] =>
      return if statement.isKind "ExpressionStatement" then some statement else none
    | _ => return none

/-- The identifier that a test negates. -/
def negatedIdentifier (test : Json) : Except ShapeError (Option Json) := do
  if test.isKind "UnaryExpression" then
    if (← test.field? "operator").bind text? == some "!" then
      return (← test.field? "argument").filter (·.isKind "Identifier")
    else return none
  else return none

/-- Recognises `if (!Foo) <expression>;`, with or without braces. -/
def missingReferenceCheck (statement : Json) :
    Except ShapeError (Option MissingReferenceCheck) := do
  if statement.isKind "IfStatement" then
    match ← inField statement "test" negatedIdentifier with
    | none => return none
    | some identifier =>
      match ← inField statement "consequent" soleExpressionStatement with
      | none => return none
      | some expressionStatement =>
        return ((← expressionStatement.field? "expression").filter isNode).map fun expression =>
          { statement, identifier, expressionStatement, expression }
  else return none

/-! ### No read fails -/

theorem inField_eq {recognise : Json → Except ShapeError (Option α)} {recognised : Json → Option α}
    {key : String} (h : ∀ w, recognise w = .ok (recognised w))
    (hread : v.field? key = .ok (v.get? key)) :
    inField v key recognise = .ok ((v.get? key).bind recognised) := by
  rw [inField, hread]
  cases v.get? key with
  | none => rfl
  | some w => exact h w

theorem identifierName_eq (v : Json) : identifierName v = .ok (identifierName? v) := by
  unfold identifierName identifierName?
  split_ifs with hk
  · rw [field?_of_isKind hk]
    rfl
  · rfl

theorem functionName_eq (v : Json) : functionName v = .ok (functionName? v) := by
  unfold functionName functionName?
  split_ifs with hv
  · exact inField_eq identifierName_eq (field?_of_isNode hv)
  · rfl

theorem isFunctionNamed_eq (v : Json) (name : String) :
    isFunctionNamed v name = .ok (Node.isFunctionNamed v name) := by
  unfold isFunctionNamed Node.isFunctionNamed
  split_ifs with hk
  · rw [functionName_eq, hk]
    rfl
  · rw [Bool.eq_false_iff.2 hk]
    rfl

theorem blockStatements_eq (v : Json) : blockStatements v = .ok (blockStatements? v) := by
  unfold blockStatements blockStatements?
  split_ifs with hk
  · rw [field?_of_isKind hk]
    rfl
  · rfl

theorem bodyStatements_eq (v : Json) : bodyStatements v = Node.bodyStatements v := by
  cases v with
  | obj fields => exact inField_eq blockStatements_eq rfl
  | _ => rfl

theorem nestedFunction_eq (v : Json) (name : String) :
    nestedFunction v name = Node.nestedFunction v name := by
  have hnamed : (isFunctionNamed · name) = fun w => pure (Node.isFunctionNamed w name) :=
    funext fun w => isFunctionNamed_eq w name
  unfold nestedFunction Node.nestedFunction
  simp only [bodyStatements_eq, hnamed, List.findM?_pure]

theorem textValue_eq (v : Json) : textValue v = .ok ((v.get? "value").bind text?) := by
  cases v <;> rfl

theorem importSource_eq (v : Json) : importSource v = Node.importSource v := by
  cases v with
  | obj fields =>
    rw [importSource, inField_eq textValue_eq rfl]
    exact congrArg Except.ok (Option.bind_assoc _ _ _).symm
  | _ => rfl

theorem bindsLocal_eq (name : String) (v : Json) :
    bindsLocal name v = .ok (Node.bindsLocal name v) := by
  unfold bindsLocal Node.bindsLocal
  cases v with
  | obj fields =>
    rw [inField_eq identifierName_eq rfl]
    cases (Json.obj fields).get? "local" <;> rfl
  | _ => rfl

/-- What is not checked fails alike with strict reads and without. -/
theorem importsLocal_eq (v : Json) (name : String) :
    importsLocal v name = Node.importsLocal v name := by
  have hbinds : bindsLocal name = fun w => pure (Node.bindsLocal name w) :=
    funext (bindsLocal_eq name)
  have hany : List.anyM (bindsLocal name) = fun ws => pure (ws.any (Node.bindsLocal name)) := by
    rw [hbinds]
    exact funext fun ws => List.anyM_pure
  rw [importsLocal, hany]
  rfl

theorem identifierCall_eq (v : Json) : identifierCall v = .ok (identifierCall? v) := by
  unfold identifierCall identifierCall?
  split_ifs with hk
  · rw [field?_of_isKind hk, field?_of_isKind hk, hk]
    rfl
  · rw [Bool.eq_false_iff.2 hk]
    rfl

theorem soleExpressionStatement_eq (v : Json) :
    soleExpressionStatement v = .ok (soleExpressionStatement? v) := by
  unfold soleExpressionStatement soleExpressionStatement?
  split_ifs with hk
  · rfl
  · rw [blockStatements_eq]
    rcases blockStatements? v with _ | _ | ⟨s, _ | _⟩ <;> rfl

theorem negatedIdentifier_eq (v : Json) :
    negatedIdentifier v = .ok (negatedIdentifier? v) := by
  unfold negatedIdentifier negatedIdentifier?
  split_ifs with hk
  · rw [field?_of_isKind hk, field?_of_isKind hk, hk]
    dsimp only [bind, Except.bind]
    cases (v.get? "operator").bind text? with
    | none => rfl
    | some sign =>
      rw [Option.some_beq_some, Option.bind_some]
      cases sign == "!" with
      | false => rfl
      | true =>
        cases v.get? "argument" with
        | none => rfl
        | some argument =>
          cases hi : argument.isKind "Identifier" <;> simp [hi, pure, Except.pure]
  · rw [Bool.eq_false_iff.2 hk]
    rfl

theorem missingReferenceCheck_eq (v : Json) :
    missingReferenceCheck v = .ok (missingReferenceCheck? v) := by
  unfold missingReferenceCheck missingReferenceCheck?
  split_ifs with hk
  · rw [inField_eq negatedIdentifier_eq (field?_of_isKind hk),
      inField_eq soleExpressionStatement_eq (field?_of_isKind hk), hk]
    cases (v.get? "test").bind negatedIdentifier? with
    | none => rfl
    | some identifier =>
      cases hs : (v.get? "consequent").bind soleExpressionStatement? with
      | none => rfl
      | some s =>
        -- the statement has been recognised as an expression before its field is read
        obtain ⟨branch, -, hbranch⟩ := Option.bind_eq_some_iff.1 hs
        have hread : s.field? "expression" = .ok (s.get? "expression") :=
          field?_of_isKind (soleExpressionStatement?_eq_some_iff.1 hbranch).1
        dsimp only [bind, Except.bind, Option.bind_some]
        rw [hread]
        cases s.get? "expression" with
        | none => rfl
        | some expression => cases hn : expression.isNode <;> simp [hn, pure, Except.pure]
  · rw [Bool.eq_false_iff.2 hk]
    rfl

end Strict

/-! ### The recognisers on nodes -/

variable {v : Json} {name : String} {e : ShapeError}

/-- **Specifiers are enumerated unchecked**, which fails on atoms that count as true and on nothing
else. -/
theorem importsLocal_eq_error_iff (hv : v.isNode = true) :
    importsLocal v name = .error e ↔ e = .noItems ∧ ∃ specifiers,
      v.get? "specifiers" = some specifiers ∧ specifiers.isTruthy = true ∧
        specifiers.isAtom = true := by
  rw [importsLocal, field?_of_isNode hv]
  cases v.get? "specifiers" with
  | none => exact iff_of_false nofun fun ⟨_, _, h, _⟩ => nomatch h
  | some specifiers =>
    by_cases htruthy : specifiers.isTruthy = true
    · have helements := elements_eq_error_iff (e := e) htruthy
      cases hs : specifiers.elements with
      | error _ =>
        rw [hs] at helements
        simpa [htruthy, bind, Except.bind, hs] using helements
      | ok _ =>
        rw [hs] at helements
        simpa [htruthy, bind, Except.bind, pure, Except.pure, hs] using helements
    · simp [htruthy, bind, Except.bind, pure, Except.pure]

/-- **On a node every recogniser returns**, with strict reads what it returns without, except where
the specifiers of an import are an atom that counts as true. -/
theorem recognisers_return (hv : v.isNode = true) (name : String) :
    Strict.functionName v = .ok (functionName? v) ∧
      Strict.isFunctionNamed v name = .ok (isFunctionNamed v name) ∧
      (∃ statements, Strict.bodyStatements v = .ok statements ∧
        bodyStatements v = .ok statements) ∧
      (∃ function, Strict.nestedFunction v name = .ok function ∧
        nestedFunction v name = .ok function) ∧
      (∃ source, Strict.importSource v = .ok source ∧ importSource v = .ok source) ∧
      Strict.identifierCall v = .ok (identifierCall? v) ∧
      Strict.missingReferenceCheck v = .ok (missingReferenceCheck? v) ∧
      Strict.importsLocal v name = importsLocal v name ∧
      ∀ e, importsLocal v name = .error e ↔ e = .noItems ∧ ∃ specifiers,
        v.get? "specifiers" = some specifiers ∧ specifiers.isTruthy = true ∧
          specifiers.isAtom = true := by
  obtain ⟨fields, rfl⟩ := exists_fields_of_isNode hv
  refine ⟨Strict.functionName_eq _, Strict.isFunctionNamed_eq _ _, ⟨_, ?_, rfl⟩, ⟨_, ?_, rfl⟩,
    ⟨_, ?_, rfl⟩, Strict.identifierCall_eq _, Strict.missingReferenceCheck_eq _,
    Strict.importsLocal_eq _ _, fun e => importsLocal_eq_error_iff hv⟩
  · exact Strict.bodyStatements_eq _
  · exact Strict.nestedFunction_eq _ _
  · exact Strict.importSource_eq _

end Node

namespace Sample

/-- An import with a number where its specifiers belong, and a function's fields filled with other
values than a function has. -/
def misshapen : Json :=
  .obj [("type", .str "ImportDeclaration"), ("specifiers", .int 5), ("id", .arr [.null]),
    ("body", .str "BlockStatement"), ("source", .obj [("value", .bool true)])]

end Sample

namespace Node

open Sample

theorem recognisers_return_misshapen :
    misshapen.isNode = true ∧ functionName? misshapen = none ∧
      Strict.functionName misshapen = .ok none ∧ Strict.identifierCall misshapen = .ok none ∧
      (∃ statements, bodyStatements misshapen = .ok statements) ∧
      (∃ source, importSource misshapen = .ok source) ∧
      importsLocal misshapen "_resolveComponent" = .error .noItems := by
  have hv : misshapen.isNode = true := by decide
  obtain ⟨hname, -, ⟨statements, -, hbody⟩, -, ⟨source, -, hsource⟩, hcall, -, -, herror⟩ :=
    recognisers_return hv "_resolveComponent"
  have hnone : functionName? misshapen = none := by decide
  refine ⟨hv, hnone, hname.trans (congrArg _ hnone), hcall.trans rfl, ⟨statements, hbody⟩,
    ⟨source, hsource⟩, (herror _).2 ⟨rfl, .int 5, rfl, rfl, rfl⟩⟩

/-- Among the specifiers of a misshapen import no name can be looked for. -/
theorem not_importsLocal_returns :
    ¬ ∀ (v : Json) (name : String), v.isNode = true → ∃ found, importsLocal v name = .ok found := by
  intro hclaim
  obtain ⟨found, hfound⟩ := hclaim misshapen "_resolveComponent" (by decide)
  have herror : importsLocal misshapen "_resolveComponent" = .error .noItems := rfl
  rw [herror] at hfound
  cases hfound

end Node

end ComponentLookup
