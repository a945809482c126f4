import ComponentLookup.Proofs.Json.Edit
import ComponentLookup.Proofs.Program.Site
import Mathlib.Data.List.TakeWhile

/-!
# How far a scan goes

A scan passes the statements of a render body from the top, as long as they are declarations or
assertions (`ReferenceScan.Passes`).  The shapes are said here field by field: an assertion is a
statement `if (!identifier) expression;` (`ReferenceScan.IsAssertion`), and its expression can be
the call of a bare identifier (`ReferenceScan.IsBareCall`).

* `ReferenceScan.accepted?_of_isBareCall` : an assertion that calls a bare identifier has another
  expression afterwards, and is the same otherwise.
* `ReferenceScan.rewritten_eq_append` : the statements that are passed change one by one, and what
  stands behind them stays.
* `ReferenceScan.counts_scan` : the numbers of declarations and assertions that have changed.
* `ReferenceScan.statements_exact` : all of this, **of every list and in every context**.
-/

namespace ComponentLookup

open Json

namespace ReferenceScan

/-! ### Shapes -/

/-- A statement `if (!identifier) expression;`, where the path leads to the expression: it is the
branch, or it stands alone between the braces of the branch. -/
structure IsAssertion (s identifier : Json) (path : Path) (expression : Json) : Prop where
  site : Program.StatementSite s path
  tested : at? [.field "test", .field "argument"] s = some identifier
  isIdentifier : identifier.isKind "Identifier" = true
  stands : at? path s = some expression
  isNode : expression.isNode = true

/-- The call of a bare identifier with a list of arguments. -/
structure IsBareCall (call callee : Json) (arguments : List Json) : Prop where
  isCall : call.isKind "CallExpression" = true
  callee_eq : call.get? "callee" = some callee
  isIdentifier : callee.isKind "Identifier" = true
  arguments_eq : call.get? "arguments" = some (.arr arguments)

/-- The scan goes on behind the statement: it is a declaration or an assertion. -/
def Passes (s : Json) : Prop :=
  s.isKind "VariableDeclaration" = true ∨ ∃ identifier path e, IsAssertion s identifier path e

/-- The statement is an assertion that calls a bare identifier. -/
def Resolves (s : Json) : Prop :=
  ∃ identifier path e callee arguments,
    IsAssertion s identifier path e ∧ IsBareCall e callee arguments

/-- The statement declares names that cannot be assigned. -/
def Relaxes (s : Json) : Prop :=
  s.isKind "VariableDeclaration" = true ∧ s.get? "kind" ≠ some (.str assignableKind)

variable {s identifier e callee : Json} {path : Path} {arguments : List Json}
  {check : Node.MissingReferenceCheck} {localName : String}

theorem identifierCall?_of_isBareCall (h : IsBareCall e callee arguments) :
    Node.identifierCall? e = some ⟨e, callee, arguments⟩ :=
  Node.identifierCall?_eq_some_iff.2 ⟨h.isCall, rfl, h.callee_eq, h.isIdentifier, h.arguments_eq⟩

theorem isBareCall_of_identifierCall? {m : Node.IdentifierCall}
    (h : Node.identifierCall? e = some m) : IsBareCall e m.callee m.arguments := by
  obtain ⟨hk, -, hcallee, hidentifier, harguments⟩ := Node.identifierCall?_eq_some_iff.1 h
  exact ⟨hk, hcallee, hidentifier, harguments⟩

/-- What is recognised as an assertion is one. -/
theorem exists_isAssertion (h : Node.missingReferenceCheck? s = some check) :
    ∃ path, IsAssertion s check.identifier path check.expression := by
  obtain ⟨hk, -, hidentifier, hsole, -, hnode⟩ := Node.missingReferenceCheck?_eq_some_iff.1 h
  obtain ⟨test, htest, hnegated⟩ := Option.bind_eq_some_iff.1 hidentifier
  obtain ⟨hunary, hoperator, hargument, hi⟩ := Node.negatedIdentifier?_eq_some_iff.1 hnegated
  obtain ⟨branch, hbranch, hbranchsole⟩ := Option.bind_eq_some_iff.1 hsole
  obtain ⟨rest, hrest, -⟩ := Program.exists_branchSite hbranchsole
  have hsite : Program.StatementSite s (.field "consequent" :: rest) :=
    ⟨⟨hk, test, htest, hunary, hoperator⟩, branch, rest, hbranch, hrest, rfl⟩
  refine ⟨_, hsite, ?_, hi, Program.at?_of_statementSite h hsite, hnode⟩
  rw [at?_field, htest, Option.bind_some, at?_singleton, hargument]

/-- Every assertion is recognised. -/
theorem exists_check (h : IsAssertion s identifier path e) :
    ∃ check, Node.missingReferenceCheck? s = some check ∧ check.identifier = identifier ∧
      check.expression = e := by
  obtain ⟨⟨⟨hk, test, htest, hunary, hoperator⟩, branch, rest, hbranch, hsite, rfl⟩, htested, hi,
    hstands, hnode⟩ := h
  rw [at?_field, htest, Option.bind_some, at?_singleton] at htested
  rw [at?_field, hbranch, Option.bind_some] at hstands
  have hnegated : (s.get? "test").bind Node.negatedIdentifier? = some identifier := by
    rw [htest, Option.bind_some]
    exact Node.negatedIdentifier?_eq_some_iff.2 ⟨hunary, hoperator, htested, hi⟩
  -- the statement that the branch consists of, with braces or without
  have hsole : ∃ statement, Node.soleExpressionStatement? branch = some statement := by
    rcases hsite with ⟨hkind, -⟩ | ⟨statement, hblock, hkind, -⟩
    · exact ⟨branch, Node.soleExpressionStatement?_eq_some_iff.2 ⟨hkind, .inl rfl⟩⟩
    · exact ⟨statement, Node.soleExpressionStatement?_eq_some_iff.2 ⟨hkind, .inr hblock⟩⟩
  obtain ⟨statement, hstatement⟩ := hsole
  have hexpression : statement.get? "expression" = some e := by
    rw [← Program.at?_of_branchSite hsite hstatement, hstands]
  have hconsequent :
      (s.get? "consequent").bind Node.soleExpressionStatement? = some statement := by
    rw [hbranch, Option.bind_some, hstatement]
  exact ⟨⟨s, identifier, statement, e⟩, Node.missingReferenceCheck?_eq_some_iff.2
    ⟨hk, rfl, hnegated, hconsequent, hexpression, hnode⟩, rfl, rfl⟩

theorem exists_isAssertion_iff :
    (∃ identifier path e, IsAssertion s identifier path e) ↔
      (Node.missingReferenceCheck? s).isSome = true := by
  constructor
  · rintro ⟨identifier, path, e, h⟩
    obtain ⟨check, hcheck, -, -⟩ := exists_check h
    rw [hcheck]
    rfl
  · intro h
    obtain ⟨check, hcheck⟩ := Option.isSome_iff_exists.1 h
    obtain ⟨path, hpath⟩ := exists_isAssertion hcheck
    exact ⟨_, _, _, hpath⟩

theorem passes_iff : Passes s ↔ Program.IsPassed s :=
  or_congr_right exists_isAssertion_iff

theorem resolves_iff : Resolves s ↔ ((Node.missingReferenceCheck? s).any fun check =>
    (Node.identifierCall? check.expression).isSome) = true := by
  constructor
  · rintro ⟨identifier, path, e, callee, arguments, h, hcall⟩
    obtain ⟨check, hcheck, -, rfl⟩ := exists_check h
    rw [hcheck, Option.any_some, identifierCall?_of_isBareCall hcall]
    rfl
  · intro h
    obtain ⟨check, hcheck, hsome⟩ := (Option.any_eq_true _ _).1 h
    obtain ⟨m, hm⟩ := Option.isSome_iff_exists.1 hsome
    obtain ⟨path, hpath⟩ := exists_isAssertion hcheck
    exact ⟨_, _, _, _, _, hpath, isBareCall_of_identifierCall? hm⟩

theorem relaxes_iff : Relaxes s ↔ s.isKind "VariableDeclaration" = true ∧
    (s.get? "kind").bind text? ≠ some assignableKind := by
  refine and_congr_right fun _ => not_congr ?_
  simp [Option.bind_eq_some_iff, text?_eq_some_iff]

instance : DecidablePred Passes := fun _ =>
  decidable_of_iff (_ ∨ _) passes_iff.symm

instance : DecidablePred Resolves := fun _ =>
  decidable_of_iff _ resolves_iff.symm

instance : DecidablePred Relaxes := fun _ =>
  decidable_of_iff (_ ∧ _) relaxes_iff.symm

/-! ### One statement -/

theorem accepted?_eq_none_iff (localName : String) :
    accepted? localName s = none ↔ ¬ Passes s := by
  rw [passes_iff]
  exact (Program.isPassed_iff.not.trans not_not).symm

theorem accepted?_of_declaration (h : s.isKind "VariableDeclaration" = true) :
    accepted? localName s = some (s.set "kind" (.str assignableKind)) := by
  rw [accepted?, if_pos h]
  rfl

theorem not_declaration (h : IsAssertion s identifier path e) :
    ¬ s.isKind "VariableDeclaration" = true :=
  not_isKind_of_isKind h.site.1.1 (by decide)

/-- The expression of a branch is replaced at its place, with braces or without. -/
theorem replace?_branchSite (new : Json) {branch statement : Json}
    (hsite : Program.BranchSite branch path)
    (hsole : Node.soleExpressionStatement? branch = some statement)
    (he : statement.get? "expression" = some e) :
    replace? (some new) path branch = some (putBranchExpression branch new) := by
  obtain ⟨hkind, rfl | hblock⟩ := Node.soleExpressionStatement?_eq_some_iff.1 hsole
  · rw [Program.branchSite_of_isKind hkind hsite, putBranchExpression, if_pos hkind]
    exact congrArg some (set_eq_update (f := fun _ => new) he).symm
  · obtain ⟨hk, hbody⟩ := Node.blockStatements?_eq_some_iff.1 hblock
    have hne : ¬ branch.isKind "ExpressionStatement" = true :=
      not_isKind_of_isKind hk (by decide)
    have hstatement : statement.update "expression" (fun _ => new) =
        statement.set "expression" new := (set_eq_update (f := fun _ => new) he).symm
    rw [Program.branchSite_of_isKind_block hk hsite, putBranchExpression, if_neg hne, hblock]
    refine congrArg some ((set_eq_update hbody).symm.trans ?_)
    simp only [replace?, alter, alterItem, Option.getD_some, Option.toList_some, hstatement,
      List.singleton_append]

/-- **An assertion that calls a bare identifier** has an assignment in the place of its expression
afterwards, and is the same otherwise. -/
theorem accepted?_of_isBareCall (h : IsAssertion s identifier path e)
    (hcall : IsBareCall e callee arguments) :
    accepted? localName s = replace? (some (Node.assignment identifier
      ((e.set "callee" (callee.set "name" (.str localName))).set "arguments"
        (.arr (arguments.eraseIdx 1))) (.str "="))) path s := by
  obtain ⟨check, hcheck, rfl, rfl⟩ := exists_check h
  obtain ⟨branch, hbranch, hsole, hresolve⟩ := resolve_eq hcheck
  obtain ⟨-, -, -, -, he, -⟩ := Node.missingReferenceCheck?_eq_some_iff.1 hcheck
  obtain ⟨-, branch', rest, hbranch', hsite, rfl⟩ := h.site
  obtain rfl : branch = branch' := Option.some.inj (hbranch.symm.trans hbranch')
  rw [accepted?, if_neg (not_declaration h), hcheck, Option.map_some,
    identifierCall?_of_isBareCall hcall]
  have hreplace := replace?_branchSite (Node.assignment check.identifier
    (resolverCall localName ⟨check.expression, callee, arguments⟩) (.str "=")) hsite hsole he
  refine congrArg some ((hresolve _ _).trans ?_)
  rw [alter, ← set_eq_update hbranch]
  exact congrArg (fun new => s.set "consequent" (Option.getD new .null)) hreplace.symm

theorem accepted?_of_not_isBareCall (h : IsAssertion s identifier path e)
    (hcall : ∀ callee arguments, ¬ IsBareCall e callee arguments) :
    accepted? localName s = some s := by
  obtain ⟨check, hcheck, -, rfl⟩ := exists_check h
  rw [accepted?, if_neg (not_declaration h), hcheck, Option.map_some]
  cases hm : Node.identifierCall? check.expression with
  | none => rfl
  | some m => exact absurd (isBareCall_of_identifierCall? hm) (hcall _ _)

/-! ### The whole list -/

/-- **The statements that are passed change one by one**, and what stands behind them stays. -/
theorem rewritten_eq_append (localName : String) (body : List Json) :
    rewritten localName body =
      (body.takeWhile (Passes ·)).map (fun s => (accepted? localName s).getD s) ++
        body.dropWhile (Passes ·) := by
  induction body with
  | nil => rfl
  | cons s rest ih =>
    by_cases hs : Passes s
    · obtain ⟨s', ha⟩ := Option.ne_none_iff_exists'.1
        (fun h => (accepted?_eq_none_iff localName).1 h hs)
      simp [rewritten, ha, hs, ih]
    · simp [rewritten, (accepted?_eq_none_iff localName).2 hs, hs]

/-! ### Counters -/

/-- There is something to do at a declaration whose names cannot be assigned, and at an assertion
that calls a bare identifier. -/
theorem changes_iff : changes s = true ↔ Relaxes s ∨ Resolves s := by
  rw [relaxes_iff, resolves_iff, changes]
  split_ifs with hv
  · have hcheck : Node.missingReferenceCheck? s = none :=
      Option.eq_none_iff_forall_ne_some.2 fun check h =>
        not_isKind_of_isKind hv (by decide) (Node.missingReferenceCheck?_eq_some_iff.1 h).1
    simp [hv, hcheck]
  · simp [hv]

theorem not_resolves_of_declaration (h : s.isKind "VariableDeclaration" = true) :
    ¬ Resolves s := by
  rintro ⟨identifier, path, e, callee, arguments, hassertion, -⟩
  exact not_declaration hassertion h

variable {index n : Nat} {s' : Json} {ctx ctx' : Context}

/-- What is counted at one statement. -/
theorem counts_statement? (h : statement? index s ctx = some (s', ctx', n)) :
    n = (if Resolves s then 1 else 0) ∧ ∀ key, ctx'.stats.get key = ctx.stats.get key +
      if key = "declarations_relaxed" then (if Relaxes s then 1 else 0) else 0 := by
  rcases statement?_cases h with ⟨hc, -, rfl, hctx⟩ | ⟨hc, hk, rfl, rfl⟩ | ⟨hc, hk, rfl, rfl⟩
  · obtain ⟨hrelaxes, hresolves⟩ := not_or.1 (fun hor => hc (changes_iff.2 hor))
    have hstats : ctx'.stats = ctx.stats := by
      rcases hctx with rfl | rfl <;> rfl
    simp [hrelaxes, hresolves, hstats]
  · have hresolves := not_resolves_of_declaration hk
    have hrelaxes : Relaxes s := (changes_iff.1 hc).resolve_right hresolves
    refine ⟨(if_neg hresolves).symm, fun key => ?_⟩
    rw [if_pos hrelaxes]
    exact Stats.get_count _ _ _ _
  · have hrelaxes : ¬ Relaxes s := fun hrelaxes =>
      not_isKind_of_isKind hk (by decide) hrelaxes.1
    have hresolves : Resolves s := (changes_iff.1 hc).resolve_left hrelaxes
    refine ⟨(if_pos hresolves).symm, fun key => ?_⟩
    rw [if_neg hrelaxes, ite_self, Int.add_zero]
    rfl

/-- **The scan counts** the declarations that it has made assignable, and returns the number of the
assertions that it has resolved. -/
theorem counts_scan (index : Nat) (body : List Json) (ctx : Context) :
    (scan index body ctx).2.2 = (body.takeWhile (Passes ·)).countP (Resolves ·) ∧
      ∀ key, (scan index body ctx).2.1.stats.get key = ctx.stats.get key +
        if key = "declarations_relaxed" then
          ((body.takeWhile (Passes ·)).countP (Relaxes ·) : Int)
        else 0 := by
  induction body generalizing index ctx with
  | nil => simp [scan]
  | cons s rest ih =>
    cases hs : statement? index s ctx with
    -- the scan stops where the prefix does
    | none =>
      have hpasses : ¬ Passes s := (accepted?_eq_none_iff _).1 (statement?_eq_none_iff.1 hs)
      simp [scan, hs, hpasses]
    | some result =>
      obtain ⟨s', ctx', n⟩ := result
      have hpasses : Passes s := by
        by_contra hnot
        have haccepted := (accepted?_of_statement? hs).1
        rw [(accepted?_eq_none_iff _).2 hnot] at haccepted
        cases haccepted
      obtain ⟨hn, hctx⟩ := counts_statement? hs
      obtain ⟨hrest, hstats⟩ := ih (index + 1) ctx'
      have htake : (s :: rest).takeWhile (Passes ·) = s :: rest.takeWhile (Passes ·) :=
        List.takeWhile_cons_of_pos (decide_eq_true hpasses)
      simp only [scan, hs, htake, List.countP_cons, decide_eq_true_eq]
      refine ⟨by rw [hrest, hn, Nat.add_comm], fun key => ?_⟩
      rw [hstats, hctx]
      split_ifs <;> omega

/-- **The scan of a list of statements**, in every context.  It goes as far as the statements are
declarations or assertions; there a declaration is made assignable, an assertion that calls a bare
identifier becomes an assignment to the identifier that it tests, and every other assertion stays.
The list stays as long as it is, and so do all statements from there on. -/
theorem statements_exact (body : List Json) (ctx : Context) :
    let passed := body.takeWhile (Passes ·)
    let result := statements body ctx
    result.1.length = body.length ∧
      (∀ index, passed.length ≤ index → result.1[index]? = body[index]?) ∧
      (∀ index s, index < passed.length → body[index]? = some s →
        (s.isKind "VariableDeclaration" = true →
          result.1[index]? = some (s.set "kind" (.str "let"))) ∧
        ∀ identifier path e, IsAssertion s identifier path e →
          (∀ callee arguments, IsBareCall e callee arguments →
            result.1[index]? = replace? (some (Node.assignment identifier
              ((e.set "callee" (callee.set "name" (.str ctx.config.resolverLocalName))).set
                "arguments" (.arr (arguments.eraseIdx 1))) (.str "="))) path s) ∧
          ((∀ callee arguments, ¬ IsBareCall e callee arguments) →
            result.1[index]? = some s)) ∧
      result.2.2 = passed.countP (Resolves ·) ∧
      ∀ key, result.2.1.stats.get key = ctx.stats.get key +
        (if key = "declarations_relaxed" then (passed.countP (Relaxes ·) : Int) else 0) +
        if key = "checks_rewritten" then (passed.countP (Resolves ·) : Int) else 0 := by
  intro passed result
  have hbody : passed ++ body.dropWhile (Passes ·) = body := List.takeWhile_append_dropWhile
  have hresult : result.1 = passed.map (fun s => (accepted? ctx.config.resolverLocalName s).getD s)
      ++ body.dropWhile (Passes ·) := by
    rw [← rewritten_eq_append]
    exact statements_fst body ctx
  obtain ⟨hcount, hstats⟩ := counts_scan 0 body ctx
  refine ⟨?_, fun index hindex => ?_, fun index s hindex hs => ?_, hcount, fun key => ?_⟩
  · rw [hresult, List.length_append, List.length_map, ← List.length_append, hbody]
  · rw [hresult, List.getElem?_append_right (by simpa using hindex), List.length_map,
      ← List.getElem?_append_right hindex, hbody]
  · rw [← hbody, List.getElem?_append_left hindex] at hs
    have hpasses : Passes s := by
      simpa using List.mem_takeWhile_imp (List.mem_of_getElem? hs)
    obtain ⟨s', hs'⟩ := Option.ne_none_iff_exists'.1 fun h =>
      (accepted?_eq_none_iff ctx.config.resolverLocalName).1 h hpasses
    have haccepted : result.1[index]? = accepted? ctx.config.resolverLocalName s := by
      rw [hresult, List.getElem?_append_left (by simpa using hindex), List.getElem?_map, hs,
        Option.map_some, hs', Option.getD_some]
    rw [haccepted]
    exact ⟨accepted?_of_declaration, fun identifier path e h =>
      ⟨fun callee arguments => accepted?_of_isBareCall h, accepted?_of_not_isBareCall h⟩⟩
  · have hend : result.2.1.stats.get key = (scan 0 body ctx).2.1.stats.get key +
        if key = "checks_rewritten" then ((scan 0 body ctx).2.2 : Int) else 0 :=
      Stats.get_count _ _ _ _
    rw [hend, hstats, hcount]

/-- The scan ends at the first statement that is neither, whatever stands behind it. -/
example :
    ([.obj [("type", .str "VariableDeclaration")], .obj [("type", .str "ExpressionStatement")],
      .obj [("type", .str "VariableDeclaration")]].takeWhile (Passes ·)).length = 1 := by
  decide

end ReferenceScan

end ComponentLookup
