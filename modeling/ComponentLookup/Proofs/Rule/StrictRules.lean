import ComponentLookup.Proofs.Node.StrictReads
import ComponentLookup.Proofs.Node.TextOutcome
import ComponentLookup.Proofs.Program.Hereditary

/-!
# Strict rules

The built-in rules with every read and every assignment strict: the recognisers of
`ComponentLookup.Proofs.Node.StrictReads`, the texts of `ComponentLookup.Proofs.Node.StrictText`,
and assignments that fail on a value without fields (`Node.Strict.assign`).  Nothing is passed over,
so a rule could fail at each of these steps.

* `ReferenceScan.Strict.unlessLong_statements` : on any statements the scan does what the running
  one does, or stops at an integer that is too long to be written.
* `RuntimeImport.Strict.unlessLong_apply` and `RenderFunction.Strict.unlessLong_apply` : and so do
  the rules, on every node of their type.

A step lemma says of each step on which earlier check it rests, and `UnlessLong` puts the steps
together.  The statements of a function are edited where they stand, so that putting them back is
no step of its own.
-/

namespace ComponentLookup

open Json StepFault

namespace Node.Strict

/-- Assigns a field of a value that has to be an object. -/
def assign (v : Json) (key : String) (w : Json) : Except StepFault Json :=
  match v with
  | .obj _ => .ok (v.set key w)
  | _ => .error (.shape .noFields)

theorem assign_of_isNode {v : Json} (h : v.isNode = true) (key : String) (w : Json) :
    assign v key w = .ok (v.set key w) := by
  obtain ⟨fields, rfl⟩ := exists_fields_of_isNode h
  rfl

theorem assign_of_isKind {v : Json} {kind : String} (h : v.isKind kind = true) (key : String)
    (w : Json) : assign v key w = .ok (v.set key w) :=
  assign_of_isNode (isNode_of_isKind h) key w

end Node.Strict

open Node.Strict (assign assign_of_isNode assign_of_isKind)

/-! ### The scan -/

namespace ReferenceScan

namespace Strict

/-- The call of the assertion turned into a call of the resolver. -/
def resolverCall (localName : String) (m : Node.IdentifierCall) : Except StepFault Json := do
  let callee ← assign m.callee "name" (.str localName)
  let call ← assign m.call "callee" callee
  assign call "arguments" (.arr (m.arguments.eraseIdx 1))

/-- Replaces the expression of the only statement of a branch. -/
def putBranchExpression (branch expression : Json) : Except StepFault Json := do
  if branch.isKind "ExpressionStatement" then assign branch "expression" expression
  else
    match ← ofRead (Node.Strict.blockStatements branch) with
    | some [statement] =>
      assign branch "body" (.arr [← assign statement "expression" expression])
    | _ => return branch

/-- The assertion turned into an assignment. -/
def resolve (localName : String) (check : Node.MissingReferenceCheck) (m : Node.IdentifierCall) :
    Except StepFault Json := do
  match ← ofRead (check.statement.field? "consequent") with
  | some branch =>
    let call ← resolverCall localName m
    let branch ← putBranchExpression branch (Node.assignment check.identifier call (.str "="))
    assign check.statement "consequent" branch
  | none => return check.statement

/-- What the scan makes of one statement; nothing if the scan ends here. -/
def statement (index : Nat) (s : Json) (ctx : Context) :
    Except StepFault (Option (Json × Context × Nat)) := do
  if s.isKind "VariableDeclaration" then
    if (← ofRead (s.field? "kind")).bind text? = some assignableKind then
      return some (s, ctx, 0)
    else
      let before ← Node.Strict.text s
      let relaxed ← assign s "kind" (.str assignableKind)
      let after ← Node.Strict.text relaxed
      return some (relaxed, (ctx.count "declarations_relaxed" 1).traced (·.logMutation
        { nodeType := "VariableDeclaration", before, after, index := some index }), 0)
  else
    match ← ofRead (Node.Strict.missingReferenceCheck s) with
    | none => return none
    | some check =>
      match ← ofRead (Node.Strict.identifierCall check.expression) with
      | none =>
        let subject ← Node.Strict.text s
        return some (s, ctx.traced (·.logInspection subject "unchanged"
          "consequent is not an identifier call"), 0)
      | some m =>
        let before ← Node.Strict.text s
        let resolved ← resolve ctx.config.resolverLocalName check m
        let after ← Node.Strict.text resolved
        return some (resolved, ctx.traced (·.logMutation
          { nodeType := "IfStatement", before, after, index := some index }), 1)

/-- Handles statements from an index on, up to the first one that ends the scan. -/
def scan : Nat → List Json → Context → Except StepFault (List Json × Context × Nat)
  | _, [], ctx => return ([], ctx, 0)
  | index, s :: rest, ctx => do
    match ← statement index s ctx with
    | none => return (s :: rest, ctx, 0)
    | some (s, ctx, n) =>
      let (rest, ctx, m) ← scan (index + 1) rest ctx
      return (s :: rest, ctx, n + m)

/-- Handles the statements of a render body. -/
def statements (body : List Json) (ctx : Context) :
    Except StepFault (List Json × Context × Nat) := do
  let (body, ctx, n) ← scan 0 body ctx
  return (body, ctx.count "checks_rewritten" n, n)

/-! ### Assignments -/

variable {localName : String} {s : Json}

/-- What is assigned to in a call has been recognised as a node. -/
theorem resolverCall_eq {e : Json} {m : Node.IdentifierCall}
    (h : Node.identifierCall? e = some m) (localName : String) :
    resolverCall localName m = .ok (ReferenceScan.resolverCall localName m) := by
  obtain ⟨hk, hcall, -, hcallee, -⟩ := Node.identifierCall?_eq_some_iff.1 h
  have hn : m.call.isNode = true := hcall ▸ isNode_of_isKind hk
  have hset : ∀ callee, (m.call.set "callee" callee).isNode = true := by
    intro callee
    rw [isNode_set (by decide), hn]
  unfold resolverCall
  rw [assign_of_isKind hcallee]
  dsimp only [bind, Except.bind]
  rw [assign_of_isNode hn]
  exact assign_of_isNode (hset _) _ _

/-- In a branch with one expression statement, that statement is a node, and so is the branch. -/
theorem putBranchExpression_eq {branch statement : Json}
    (h : Node.soleExpressionStatement? branch = some statement) (e : Json) :
    putBranchExpression branch e = .ok (ReferenceScan.putBranchExpression branch e) := by
  obtain ⟨hk, hwhere⟩ := Node.soleExpressionStatement?_eq_some_iff.1 h
  unfold putBranchExpression ReferenceScan.putBranchExpression
  split_ifs with hbranch
  · exact assign_of_isKind hbranch _ _
  · rcases hwhere with rfl | hblock
    · exact absurd hk hbranch
    · have hb := (Node.blockStatements?_eq_some_iff.1 hblock).1
      rw [Node.Strict.blockStatements_eq, hblock]
      dsimp only [ofRead_ok, bind, Except.bind]
      rw [assign_of_isKind hk]
      exact assign_of_isKind hb _ _

/-- Turning an assertion into an assignment does not fail. -/
theorem resolve_eq {check : Node.MissingReferenceCheck} {m : Node.IdentifierCall}
    (hc : Node.missingReferenceCheck? s = some check)
    (hm : Node.identifierCall? check.expression = some m) (localName : String) :
    resolve localName check m = .ok (ReferenceScan.resolve localName check m) := by
  obtain ⟨hk, hs, -⟩ := Node.missingReferenceCheck?_eq_some_iff.1 hc
  obtain ⟨branch, hb, hsole, hresolve⟩ := ReferenceScan.resolve_eq hc
  rw [hresolve, resolve, hs, field?_of_isKind hk, hb]
  dsimp only [ofRead_ok, bind, Except.bind]
  rw [resolverCall_eq hm]
  dsimp only
  rw [putBranchExpression_eq hsole]
  exact assign_of_isKind hk _ _

/-! ### Statements -/

/-- **One statement.**  Its texts, before and after, are all that can keep the scan from it. -/
theorem unlessLong_statement (index : Nat) (s : Json) (ctx : Context) :
    UnlessLong s.Readable (statement index s ctx) (.ok (statement? index s ctx)) := by
  have hbefore := Node.Strict.unlessLong_text s
  -- what a statement becomes can be read if the statement can
  have hafter : ∀ s', accepted? ctx.config.resolverLocalName s = some s' →
      UnlessLong s.Readable (Node.Strict.text s') (.ok (Node.render s')) := fun s' ha =>
    (Node.Strict.unlessLong_text s').mono (hereditary_accepted? hereditary_readable ha)
  unfold statement statement?
  by_cases hv : s.isKind "VariableDeclaration" = true
  · rw [if_pos hv, if_pos hv, field?_of_isKind hv]
    refine .bind_ok (.ok _) ?_
    split_ifs with hkind
    · exact .ok _
    · refine hbefore.bind_ok (.bind_ok (.of_eq (assign_of_isKind hv _ _)) ?_)
      refine (hafter (relax s) ?_).bind_ok (.ok _)
      rw [accepted?, if_pos hv]
  · rw [if_neg hv, if_neg hv, Node.Strict.missingReferenceCheck_eq]
    refine .bind_ok (.ok _) ?_
    cases hc : Node.missingReferenceCheck? s with
    | none => exact .ok _
    | some check =>
      dsimp only
      rw [Node.Strict.identifierCall_eq]
      refine .bind_ok (.ok _) ?_
      cases hm : Node.identifierCall? check.expression with
      | none => exact hbefore.bind_ok (.ok _)
      | some m =>
        refine hbefore.bind_ok (.bind_ok (.of_eq (resolve_eq hc hm _)) ?_)
        refine (hafter _ ?_).bind_ok (.ok _)
        rw [accepted?, if_neg hv, hc, Option.map_some, hm]

/-- The scan goes from statement to statement. -/
theorem unlessLong_scan (index : Nat) (body : List Json) (ctx : Context) :
    UnlessLong (∀ s ∈ body, s.Readable) (scan index body ctx)
      (.ok (ReferenceScan.scan index body ctx)) := by
  induction body generalizing index ctx with
  | nil => exact .ok _
  | cons s rest ih =>
    rw [scan, ReferenceScan.scan]
    refine ((unlessLong_statement index s ctx).mono fun h => h s List.mem_cons_self).bind_ok ?_
    cases statement? index s ctx with
    | none => exact .ok _
    | some result =>
      obtain ⟨s', ctx', n⟩ := result
      refine ((ih (index + 1) ctx').mono fun h => ?_).bind_ok (.ok _)
      exact fun t ht => h t (List.mem_cons_of_mem s ht)

/-- **The scan** does what the running one does, unless a statement holds a long integer. -/
theorem unlessLong_statements (body : List Json) (ctx : Context) :
    UnlessLong (∀ s ∈ body, s.Readable) (statements body ctx)
      (.ok (ReferenceScan.statements body ctx)) :=
  (unlessLong_scan 0 body ctx).bind_ok (.ok _)

end Strict

end ReferenceScan

/-! ### The function declaration -/

namespace RenderFunction.Strict

/-- The render body nested in the entry function, with its statements. -/
def renderBody (entry : Json) (name : String) :
    Except ShapeError (Option (Json × List Json)) := do
  match ← Node.Strict.nestedFunction entry name with
  | none => return none
  | some body => return (← Node.Strict.bodyStatements body).map fun inner => (body, inner)

/-- Handles the entry function. -/
def applyToEntry (node : Json) (name : String) (ctx : Context) : Except StepFault RuleReply := do
  let bodyName := ctx.config.renderBodyName
  match ← ofRead (renderBody node bodyName) with
  | none =>
    return ⟨node, (ctx.report .warning
      ("'" ++ name ++ "' has no nested '" ++ bodyName ++ "' function; left unchanged.")).traced
        (·.logWarning ("Missing '" ++ bodyName ++ "' in '" ++ name ++ "'")), .ok (some .skip)⟩
  | some (body, inner) =>
    let ctx := ctx.traced (·.startPhase "Component References" ("Rewriting '" ++ bodyName ++ "'"))
    let (inner, ctx, _) ← ReferenceScan.Strict.statements inner ctx
    return ⟨putRenderBody node bodyName (putBody body inner), ctx.traced (·.endPhase),
      .ok (some .skip)⟩

/-- Handles a function declaration. -/
def apply (node : Json) (ctx : Context) : Except StepFault RuleReply := do
  match ← ofRead (Node.Strict.functionName node) with
  | none => return ⟨node, ctx, .ok (some .skip)⟩
  | some name =>
    if name = ctx.config.renderEntryName then applyToEntry node name ctx
    else if name = ctx.config.missingReferenceName then
      return ⟨node, (ctx.count "helpers_removed" 1).traced (·.logMutation
        { nodeType := "FunctionDeclaration", before := "function " ++ name ++ "(...)"
          after := "", index := none }), .ok (some .remove)⟩
    else return ⟨node, ctx, .ok (some .skip)⟩

theorem renderBody_eq (v : Json) (name : String) :
    renderBody v name = RenderFunction.renderBody v name := by
  rw [renderBody, RenderFunction.renderBody, Node.Strict.nestedFunction_eq]
  cases Node.nestedFunction v name with
  | error e => rfl
  | ok found =>
    cases found with
    | none => rfl
    | some body =>
      dsimp only [bind, Except.bind]
      rw [Node.Strict.bodyStatements_eq]

variable {v : Json}

theorem readable_of_renderBody? {name : String} {body : Json} {inner : List Json}
    (hb : Program.renderBody? v name = some (body, inner)) (hv : v.Readable) :
    ∀ s ∈ inner, s.Readable := by
  have hstatements : ∀ {w : Json} {statements : List Json}, Program.body? w = some statements →
      w.Readable → ∀ s ∈ statements, s.Readable := by
    intro w statements hbody hw s hs
    obtain ⟨block, hblock, hitems⟩ := Option.bind_eq_some_iff.1 hbody
    have hget := (Node.blockStatements?_eq_some_iff.1 hitems).2
    exact hereditary_readable.mem
      (hereditary_readable.get? (hereditary_readable.get? hw hblock) hget) hs
  obtain ⟨statements, hs, hfind, hinner⟩ := Program.renderBody?_eq_some_iff.1 hb
  exact hstatements hinner (hstatements hs hv body (List.mem_of_find?_eq_some hfind))

theorem unlessLong_applyToEntry (hv : v.isNode = true) (name : String) (ctx : Context) :
    UnlessLong v.Readable (applyToEntry v name ctx)
      (.ok (RenderFunction.applyToEntry v name ctx)) := by
  unfold applyToEntry
  dsimp only
  rw [renderBody_eq, Program.renderBody_eq hv]
  refine .bind_ok (.ok _) ?_
  cases hb : Program.renderBody? v ctx.config.renderBodyName with
  | none =>
    rw [Program.applyToEntry_of_none hv name hb]
    exact .ok _
  | some result =>
    obtain ⟨body, inner⟩ := result
    rw [Program.applyToEntry_of_some hv name hb]
    have hscan := ReferenceScan.Strict.unlessLong_statements inner (Program.scanContext ctx)
    exact (hscan.mono (readable_of_renderBody? hb)).bind_ok (.ok _)

/-- **The rule for functions** does what the running one does, unless the node holds a long
integer. -/
theorem unlessLong_apply (hv : v.isNode = true) (ctx : Context) :
    UnlessLong v.Readable (apply v ctx) (.ok (RenderFunction.apply v ctx)) := by
  unfold apply RenderFunction.apply
  rw [Node.Strict.functionName_eq]
  refine .bind_ok (.ok _) ?_
  cases Node.functionName? v with
  | none => exact .ok _
  | some name =>
    dsimp only
    split_ifs
    · exact unlessLong_applyToEntry hv name ctx
    · exact .ok _
    · exact .ok _

end RenderFunction.Strict

/-! ### The runtime import -/

namespace RuntimeImport.Strict

/-- Handles an import declaration. -/
def apply (node : Json) (ctx : Context) : Except StepFault RuleReply := do
  let done (node : Json) (ctx : Context) : RuleReply := ⟨node, ctx, .ok (some .skip)⟩
  match ← ofRead (Node.Strict.importSource node) with
  | none => return done node ctx
  | some source =>
    if endsWith source ctx.config.runtimeSuffix then
      match (← ofRead (node.field? "specifiers")).bind items? with
      | none => return done node ctx
      | some specifiers =>
        if ← ofRead (Node.Strict.importsLocal node ctx.config.resolverLocalName) then
          return done node (ctx.traced (·.logInspection source "unchanged"
            ("'" ++ ctx.config.resolverLocalName ++ "' already imported")))
        else
          let before ← Node.Strict.text node
          let augmented ← assign node "specifiers" (.arr (specifiers ++
            [Node.importSpecifier (.str ctx.config.resolverImportName)
              (.str ctx.config.resolverLocalName)]))
          let after ← Node.Strict.text augmented
          return done augmented ((ctx.count "imports_augmented" 1).traced (·.logMutation
            { nodeType := "ImportDeclaration", before, after, index := none }))
    else return done node ctx

variable {v : Json}

theorem readable_addSpecifier (config : Config) {specifiers : List Json}
    (hs : v.get? "specifiers" = some (.arr specifiers)) (hv : v.Readable) :
    (addSpecifier config v specifiers).Readable := by
  refine hereditary_readable.set hv (hereditary_readable.arr_iff.2 fun s hmem => ?_)
  rcases List.mem_append.1 hmem with hmem | hmem
  · exact hereditary_readable.mem (hereditary_readable.get? hv hs) hmem
  · rw [List.mem_singleton.1 hmem]
    exact Program.hereditary_importSpecifier hereditary_readable (hereditary_readable.str _)
      (hereditary_readable.str _)

/-- **The rule for imports** does what the running one does, unless the node holds a long
integer. -/
theorem unlessLong_apply (hv : v.isNode = true) (ctx : Context) :
    UnlessLong v.Readable (apply v ctx) (.ok (RuntimeImport.apply v ctx)) := by
  unfold apply RuntimeImport.apply
  rw [Node.Strict.importSource_eq, Program.importSource_eq hv]
  refine .bind_ok (.ok _) ?_
  cases ((v.get? "source").bind (·.get? "value")).bind text? with
  | none => exact .ok _
  | some source =>
    dsimp only
    split_ifs with hends
    · rw [field?_of_isNode hv]
      refine .bind_ok (.ok _) ?_
      cases hs : (v.get? "specifiers").bind items? with
      | none => exact .ok _
      | some specifiers =>
        -- the specifiers are enumerated after they have been seen to be a list
        obtain ⟨w, hw, hitems⟩ := Option.bind_eq_some_iff.1 hs
        rw [items?_eq_some_iff.1 hitems] at hw
        dsimp only
        rw [Node.Strict.importsLocal_eq, Program.importsLocal_eq hw]
        refine .bind_ok (.ok _) ?_
        cases specifiers.any (Node.bindsLocal ctx.config.resolverLocalName) with
        | true => exact .ok _
        | false =>
          refine (Node.Strict.unlessLong_text v).bind_ok
            (.bind_ok (.of_eq (assign_of_isNode hv _ _)) ?_)
          refine ((Node.Strict.unlessLong_text _).mono ?_).bind_ok (.ok _)
          exact readable_addSpecifier ctx.config hw
    · exact .ok _

end RuntimeImport.Strict

end ComponentLookup
