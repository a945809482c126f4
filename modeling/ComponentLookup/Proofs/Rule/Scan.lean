import ComponentLookup.Proofs.Node.Pattern
import ComponentLookup.Rule.RenderFunction

/-!
# The scan of a render body

What the scan makes of a statement does not depend on the statements before it, nor on what was
counted, traced or logged so far.  So the statements after a scan are a function of the statements
alone:

* `ReferenceScan.accepted?` : what becomes of one statement, and nothing for a statement that ends
  the scan.
* `ReferenceScan.rewritten` : the statements after a scan, which `statements_fst` says are what the
  scan returns.
* `ReferenceScan.changes` : the statements that are not left as they are (`accepted_ne_iff`).
* `ReferenceScan.rewritten_rewritten` : a second scan goes as far as the first and changes nothing.

A scan that changes nothing counts nothing and records no edit (`quiet_statements`).
-/

namespace ComponentLookup

open Json

/-! ### Counters and edits on record -/

theorem Stats.count_zero {stats : Stats} {key : String} (h : key ∈ stats.map Prod.fst) :
    stats.count key 0 = stats := by
  induction stats with
  | nil => cases h
  | cons entry rest ih =>
    obtain ⟨k, m⟩ := entry
    simp only [Stats.count]
    split_ifs with hk
    · rw [Int.add_zero]
    · rw [ih ((List.mem_cons.1 h).resolve_left (Ne.symm hk))]

theorem Stats.get_count (stats : Stats) (key key' : String) (amount : Int) :
    (stats.count key amount).get key' = stats.get key' + if key' = key then amount else 0 := by
  induction stats with
  | nil =>
    simp only [count, get, eq_comm (a := key)]
    split_ifs <;> simp
  | cons entry rest ih =>
    obtain ⟨k, n⟩ := entry
    simp only [count]
    split_ifs with hk hkey hkey <;> simp only [get] <;> split_ifs <;> simp_all

/-- Between two contexts no counter moved and no edit was recorded.  A scan adds zero to the counter
of assertions when it finds none, which can be told only if that counter is not there yet. -/
structure Context.Quiet (before after : Context) : Prop where
  stats : "checks_rewritten" ∈ before.stats.map Prod.fst → after.stats = before.stats
  mutations : after.tracer.mutations = before.tracer.mutations

namespace Context.Quiet

variable {a b c : Context}

theorem refl (a : Context) : Quiet a a := ⟨fun _ => rfl, rfl⟩

theorem trans (hab : Quiet a b) (hbc : Quiet b c) : Quiet a c where
  stats h := by
    have hb := hab.stats h
    rw [hbc.stats (hb ▸ h), hb]
  mutations := hbc.mutations.trans hab.mutations

end Context.Quiet

namespace Tracer

variable (t : Tracer)

/-- Only the record of an edit adds to the edits. -/
theorem mutations_record {body : EventBody} (h : ∀ m, body ≠ .mutation m) (parent : Option Nat) :
    (t.record body parent).mutations = t.mutations := by
  unfold record
  split_ifs
  · cases body with
    | mutation m => exact absurd rfl (h m)
    | _ => simp [mutations]
  · rfl

@[simp] theorem mutations_startPhase (name detail : String) :
    (t.startPhase name detail).mutations = t.mutations :=
  t.mutations_record (fun _ => EventBody.noConfusion) _

@[simp] theorem mutations_endPhase : t.endPhase.mutations = t.mutations := by
  unfold endPhase
  split
  · rfl
  · exact t.mutations_record (fun _ => EventBody.noConfusion) _

@[simp] theorem mutations_logWarning (message : String) :
    (t.logWarning message).mutations = t.mutations :=
  t.mutations_record (fun _ => EventBody.noConfusion) _

@[simp] theorem mutations_logInspection (subject outcome detail : String) :
    (t.logInspection subject outcome detail).mutations = t.mutations :=
  t.mutations_record (fun _ => EventBody.noConfusion) _

end Tracer

theorem Context.quiet_traced (ctx : Context) {f : Tracer → Tracer}
    (h : (f ctx.tracer).mutations = ctx.tracer.mutations) : ctx.Quiet (ctx.traced f) :=
  ⟨fun _ => rfl, h⟩

namespace ReferenceScan

/-! ### One statement -/

/-- What becomes of a statement in a scan; nothing if the scan ends at it. -/
def accepted? (localName : String) (statement : Json) : Option Json :=
  if statement.isKind "VariableDeclaration" then some (relax statement)
  else
    (Node.missingReferenceCheck? statement).map fun check =>
      match Node.identifierCall? check.expression with
      | none => statement
      | some m => resolve localName check m

variable {localName : String} {index : Nat} {s s' : Json} {ctx ctx' : Context} {n : Nat}

theorem relax_eq_self (h : (s.get? "kind").bind text? = some assignableKind) : relax s = s := by
  obtain ⟨v, hv, ht⟩ := Option.bind_eq_some_iff.1 h
  cases v <;> simp only [text?, reduceCtorEq, Option.some.injEq] at ht
  subst ht
  exact set_eq_self hv

theorem get?_kind_relax (h : s.isNode = true) :
    ((relax s).get? "kind").bind text? = some assignableKind := by
  rw [relax, get?_set_self h]
  rfl

theorem statement?_eq_none_iff :
    statement? index s ctx = none ↔ accepted? ctx.config.resolverLocalName s = none := by
  unfold statement? accepted?
  split_ifs with hv hk <;> try simp
  cases hc : Node.missingReferenceCheck? s with
  | none => simp
  | some check => cases hm : Node.identifierCall? check.expression <;> simp [hm]

theorem accepted?_of_statement? (h : statement? index s ctx = some (s', ctx', n)) :
    accepted? ctx.config.resolverLocalName s = some s' ∧ ctx'.config = ctx.config := by
  unfold statement? at h
  unfold accepted?
  split_ifs at h ⊢ with hv hk
  · cases h; exact ⟨congrArg some (relax_eq_self hk), rfl⟩
  · cases h; exact ⟨rfl, rfl⟩
  · cases hc : Node.missingReferenceCheck? s with
    | none => simp [hc] at h
    | some check =>
      cases hm : Node.identifierCall? check.expression <;> simp only [hc, hm] at h <;> cases h <;>
        simp [hm, Context.traced]

theorem soleExpressionStatement?_putBranchExpression {branch statement : Json} (e : Json)
    (h : Node.soleExpressionStatement? branch = some statement) :
    Node.soleExpressionStatement? (putBranchExpression branch e) =
      some (statement.set "expression" e) := by
  rw [Node.soleExpressionStatement?_eq_some_iff] at h ⊢
  obtain ⟨hk, rfl | hb⟩ := h
  · rw [putBranchExpression, if_pos hk]
    exact ⟨by rw [isKind_set (by decide), hk], .inl rfl⟩
  · have hblock := Node.blockStatements?_eq_some_iff.1 hb
    have hne : ¬ branch.isKind "ExpressionStatement" = true :=
      not_isKind_of_isKind hblock.1 (by decide)
    simp only [putBranchExpression, if_neg hne, hb]
    refine ⟨by rw [isKind_set (by decide), hk], .inr ?_⟩
    rw [Node.blockStatements?_eq_some_iff, isKind_set (by decide),
      get?_set_self (isNode_of_isKind hblock.1)]
    exact ⟨hblock.1, rfl⟩

/-- The assertion turned into an assignment has another branch, and no other change. -/
theorem resolve_eq {check : Node.MissingReferenceCheck}
    (h : Node.missingReferenceCheck? s = some check) :
    ∃ branch, s.get? "consequent" = some branch ∧
      Node.soleExpressionStatement? branch = some check.expressionStatement ∧
      ∀ localName m, resolve localName check m = s.set "consequent" (putBranchExpression branch
        (Node.assignment check.identifier (resolverCall localName m) (.str "="))) := by
  obtain ⟨-, hs, -, hsole, -, -⟩ := Node.missingReferenceCheck?_eq_some_iff.1 h
  obtain ⟨branch, hb, hsole⟩ := Option.bind_eq_some_iff.1 hsole
  exact ⟨branch, hb, hsole, fun localName m => by simp only [resolve, hs, hb]⟩

/-- An assertion turned into an assignment is still an assertion, of the same identifier, but no
longer one that calls a function. -/
theorem missingReferenceCheck?_resolve {check : Node.MissingReferenceCheck}
    (h : Node.missingReferenceCheck? s = some check) (localName : String)
    (m : Node.IdentifierCall) :
    Node.missingReferenceCheck? (resolve localName check m) = some
      { statement := resolve localName check m
        identifier := check.identifier
        expressionStatement := check.expressionStatement.set "expression"
          (Node.assignment check.identifier (resolverCall localName m) (.str "="))
        expression := Node.assignment check.identifier (resolverCall localName m) (.str "=") } := by
  obtain ⟨hk, -, hi, -, -, -⟩ := Node.missingReferenceCheck?_eq_some_iff.1 h
  obtain ⟨branch, -, hsole, hresolve⟩ := resolve_eq h
  have hes := (Node.soleExpressionStatement?_eq_some_iff.1 hsole).1
  rw [Node.missingReferenceCheck?_eq_some_iff, hresolve]
  refine ⟨?_, rfl, ?_, ?_, ?_, rfl⟩
  · rw [isKind_set (by decide), hk]
  · rw [get?_set_of_ne (by decide), hi]
  · rw [get?_set_self (isNode_of_isKind hk)]
    exact soleExpressionStatement?_putBranchExpression _ hsole
  · exact get?_set_self (isNode_of_isKind hes)

/-- A statement that the scan passes keeps its type. -/
theorem kind?_accepted? (h : accepted? localName s = some s') : s'.kind? = s.kind? := by
  unfold accepted? at h
  split_ifs at h
  · cases h
    exact kind?_set (by decide)
  · obtain ⟨check, hc, h⟩ := Option.map_eq_some_iff.1 h
    cases hm : Node.identifierCall? check.expression <;> simp only [hm] at h <;> subst h
    · rfl
    · obtain ⟨branch, -, -, hresolve⟩ := resolve_eq hc
      rw [hresolve, kind?_set (by decide)]

theorem identifierCall?_assignment (left right operator : Json) :
    Node.identifierCall? (Node.assignment left right operator) = none := by
  rw [Option.eq_none_iff_forall_ne_some]
  intro m h
  have hk : (Node.assignment left right operator).isKind "CallExpression" = false := rfl
  rw [(Node.identifierCall?_eq_some_iff.1 h).1] at hk
  cases hk

/-- What a scan has made of a statement, a second scan leaves as it is. -/
theorem accepted?_accepted (h : accepted? localName s = some s') :
    accepted? localName s' = some s' := by
  unfold accepted? at h
  split_ifs at h with hv
  · cases h
    have hn := isNode_of_isKind hv
    have hk : (relax s).isKind "VariableDeclaration" = true := by
      rw [relax, isKind_set (by decide), hv]
    rw [accepted?, if_pos hk, relax_eq_self (get?_kind_relax hn)]
  · obtain ⟨check, hc, h⟩ := Option.map_eq_some_iff.1 h
    cases hm : Node.identifierCall? check.expression with
    | none =>
      simp only [hm] at h
      subst h
      simp [accepted?, hv, hc, hm]
    | some m =>
      -- still an assertion, so that the scan passes it, but one without a call
      simp only [hm] at h
      have hc' := missingReferenceCheck?_resolve hc localName m
      rw [h] at hc'
      have hv' : ¬ s'.isKind "VariableDeclaration" = true :=
        not_isKind_of_isKind (Node.missingReferenceCheck?_eq_some_iff.1 hc').1 (by decide)
      simp [accepted?, hv', hc', identifierCall?_assignment]

/-- The scan has something to do at a statement: it is a declaration whose names cannot be assigned
yet, or an assertion that calls a function. -/
def changes (s : Json) : Bool :=
  if s.isKind "VariableDeclaration" then (s.get? "kind").bind text? != some assignableKind
  else (Node.missingReferenceCheck? s).any fun check =>
    (Node.identifierCall? check.expression).isSome

/-- An accepted statement is changed just if there is something to do at it. -/
theorem accepted_ne_iff (h : accepted? localName s = some s') :
    s' ≠ s ↔ changes s = true := by
  unfold accepted? at h
  unfold changes
  split_ifs at h ⊢ with hv
  · cases h
    rw [bne_iff_ne, ne_eq, ne_eq, not_iff_not]
    -- a declaration that has been relaxed has the kind that lets it alone
    exact ⟨fun heq => heq ▸ get?_kind_relax (isNode_of_isKind hv), relax_eq_self⟩
  · obtain ⟨check, hc, h⟩ := Option.map_eq_some_iff.1 h
    rw [hc, Option.any_some]
    cases hm : Node.identifierCall? check.expression with
    | none => simp_all
    | some m =>
      simp only [hm] at h
      refine iff_of_true (fun heq => ?_) rfl
      -- the statement would be its own resolution, which calls no function any more
      have hc' := missingReferenceCheck?_resolve hc localName m
      rw [h, heq, hc, Option.some.injEq] at hc'
      rw [hc', identifierCall?_assignment] at hm
      cases hm

/-- What the scan can do at a statement that it passes: leave it, and perhaps tell why; make a
declaration assignable; or resolve an assertion, which is counted at the end of the scan. -/
theorem statement?_cases (h : statement? index s ctx = some (s', ctx', n)) :
    (¬ changes s = true ∧ s' = s ∧ n = 0 ∧
      (ctx' = ctx ∨ ctx' = ctx.traced (·.logInspection (Node.render s) "unchanged"
        "consequent is not an identifier call"))) ∨
    (changes s = true ∧ s.isKind "VariableDeclaration" = true ∧ n = 0 ∧
      ctx' = (ctx.count "declarations_relaxed" 1).traced (·.logMutation
        { nodeType := "VariableDeclaration", before := Node.render s, after := Node.render s'
          index := some index })) ∨
    (changes s = true ∧ s.isKind "IfStatement" = true ∧ n = 1 ∧
      ctx' = ctx.traced (·.logMutation
        { nodeType := "IfStatement", before := Node.render s, after := Node.render s'
          index := some index })) := by
  unfold statement? at h
  by_cases hv : s.isKind "VariableDeclaration" = true
  · simp only [if_pos hv] at h
    by_cases hk : (s.get? "kind").bind text? = some assignableKind
    · rw [if_pos hk] at h
      cases h
      exact .inl ⟨by simp [changes, hv, hk], rfl, rfl, .inl rfl⟩
    · rw [if_neg hk] at h
      cases h
      exact .inr (.inl ⟨by simp [changes, hv, hk], hv, rfl, rfl⟩)
  · simp only [if_neg hv] at h
    cases hc : Node.missingReferenceCheck? s with
    | none => simp [hc] at h
    | some check =>
      cases hm : Node.identifierCall? check.expression with
      | none =>
        simp only [hc, hm] at h
        cases h
        exact .inl ⟨by simp [changes, hv, hc, hm], rfl, rfl, .inr rfl⟩
      | some m =>
        simp only [hc, hm] at h
        cases h
        exact .inr (.inr ⟨by simp [changes, hv, hc, hm],
          (Node.missingReferenceCheck?_eq_some_iff.1 hc).1, rfl, rfl⟩)

/-- A statement that a scan leaves as it is moves no counter and is no edit. -/
theorem quiet_statement? (h : statement? index s ctx = some (s, ctx', n)) :
    ctx.Quiet ctx' ∧ n = 0 := by
  have hself : ¬ changes s = true := fun hc =>
    (accepted_ne_iff (accepted?_of_statement? h).1).2 hc rfl
  rcases statement?_cases h with ⟨-, -, hn, rfl | rfl⟩ | ⟨hc, -⟩ | ⟨hc, -⟩
  · exact ⟨.refl _, hn⟩
  · exact ⟨ctx.quiet_traced (by simp), hn⟩
  · exact absurd hc hself
  · exact absurd hc hself

/-! ### The whole list -/

/-- The statements after a scan. -/
def rewritten (localName : String) : List Json → List Json
  | [] => []
  | s :: rest =>
    match accepted? localName s with
    | none => s :: rest
    | some s' => s' :: rewritten localName rest

theorem scan_eq (index : Nat) (body : List Json) (ctx : Context) :
    (scan index body ctx).1 = rewritten ctx.config.resolverLocalName body ∧
      (scan index body ctx).2.1.config = ctx.config := by
  induction body generalizing index ctx with
  | nil => simp [scan, rewritten]
  | cons s rest ih =>
    cases hs : statement? index s ctx with
    | none => simp [scan, rewritten, hs, statement?_eq_none_iff.1 hs]
    | some result =>
      obtain ⟨s', ctx', n⟩ := result
      obtain ⟨ha, hc⟩ := accepted?_of_statement? hs
      obtain ⟨hfst, hcfg⟩ := ih (index + 1) ctx'
      simp only [scan, rewritten, hs, ha]
      exact ⟨by rw [hfst, hc], hcfg.trans hc⟩

/-- **The statements after a scan** are a function of the statements before it. -/
theorem statements_fst (body : List Json) (ctx : Context) :
    (statements body ctx).1 = rewritten ctx.config.resolverLocalName body :=
  (scan_eq 0 body ctx).1

/-- **A second scan changes nothing.** -/
theorem rewritten_rewritten (localName : String) (body : List Json) :
    rewritten localName (rewritten localName body) = rewritten localName body := by
  induction body with
  | nil => rfl
  | cons s rest ih =>
    cases ha : accepted? localName s with
    | none => simp [rewritten, ha]
    | some s' => simp [rewritten, ha, accepted?_accepted ha, ih]

theorem quiet_scan (index : Nat) (body : List Json) (ctx : Context)
    (h : rewritten ctx.config.resolverLocalName body = body) :
    ctx.Quiet (scan index body ctx).2.1 ∧ (scan index body ctx).2.2 = 0 := by
  induction body generalizing index ctx with
  | nil => exact ⟨.refl _, rfl⟩
  | cons s rest ih =>
    cases hs : statement? index s ctx with
    | none => simpa [scan, hs] using Context.Quiet.refl ctx
    | some result =>
      obtain ⟨s', ctx', n⟩ := result
      obtain ⟨ha, hc⟩ := accepted?_of_statement? hs
      simp only [rewritten, ha, List.cons.injEq] at h
      obtain ⟨rfl, hrest⟩ := h
      obtain ⟨hquiet, rfl⟩ := quiet_statement? hs
      obtain ⟨hquiet', hn⟩ := ih (index + 1) ctx' (hc ▸ hrest)
      simp only [scan, hs]
      exact ⟨hquiet.trans hquiet', by simpa using hn⟩

/-- A scan that changes no statement moves no counter and records no edit. -/
theorem quiet_statements (body : List Json) (ctx : Context)
    (h : rewritten ctx.config.resolverLocalName body = body) :
    ctx.Quiet (statements body ctx).2.1 := by
  obtain ⟨hquiet, hn⟩ := quiet_scan 0 body ctx h
  refine hquiet.trans ⟨fun hkey => ?_, rfl⟩
  simp only [statements, Context.count, hn]
  exact Stats.count_zero hkey

theorem config_statements (body : List Json) (ctx : Context) :
    (statements body ctx).2.1.config = ctx.config :=
  (scan_eq 0 body ctx).2

end ReferenceScan

end ComponentLookup
