import ComponentLookup.Proofs.Program.Resolved
import ComponentLookup.Resolver

/-!
# The built-in rules

Each built-in rule makes of a node what the declarative resolution makes of it
(`Program.resolvedStatement?`), whatever was counted, traced and logged before:

* `Program.runtimeImport_apply` : the rule for imports.
* `Program.renderFunction_apply` : the rule for functions, which takes out the helper and scans the
  render body of the entry function (`Program.applyToEntry_eq`).

A node that stays as it is moves no counter and is no edit (`Program.quiet_runtimeImport`,
`Program.quiet_renderFunction`).
-/

namespace ComponentLookup

open Json

namespace Program

variable {config : Config} {v : Json} {f g : List Json → List Json}

/-! ### Bodies -/

/-- The statements of a function whose body is a block. -/
def body? (function : Json) : Option (List Json) :=
  (function.get? "body").bind Node.blockStatements?

theorem bodyStatements_of_body? {statements : List Json} (h : body? v = some statements) :
    Node.bodyStatements v = .ok (some statements) := by
  obtain ⟨block, hb, hs⟩ := Option.bind_eq_some_iff.1 h
  obtain ⟨fields, rfl⟩ := exists_fields_of_get? hb
  exact congrArg Except.ok h

theorem bodyStatements_eq (h : v.isNode = true) : Node.bodyStatements v = .ok (body? v) := by
  obtain ⟨fields, rfl⟩ := exists_fields_of_isNode h
  rfl

theorem blockStatements?_onBlock (block : Json) :
    Node.blockStatements? (onBlock f block) = (Node.blockStatements? block).map f := by
  unfold onBlock
  cases h : Node.blockStatements? block with
  | none => exact h
  | some statements =>
    obtain ⟨hk, -⟩ := Node.blockStatements?_eq_some_iff.1 h
    exact Node.blockStatements?_eq_some_iff.2
      ⟨by rw [isKind_set (by decide), hk], get?_set_self (isNode_of_isKind hk)⟩

@[simp] theorem body?_onBody : body? (onBody f v) = (body? v).map f := by
  unfold body? onBody
  rw [get?_update_self]
  cases v.get? "body" with
  | none => rfl
  | some block => exact blockStatements?_onBlock block

theorem onBody_eq_putBody {statements : List Json} (h : body? v = some statements) :
    onBody f v = RenderFunction.putBody v (f statements) := by
  obtain ⟨block, hb, hs⟩ := Option.bind_eq_some_iff.1 h
  simp only [RenderFunction.putBody, hb]
  rw [onBody, ← set_eq_update hb]
  simp only [onBlock, hs]

theorem onBody_eq_self (h : ∀ statements, body? v = some statements → f statements = statements) :
    onBody f v = v := by
  refine update_eq_self fun block hb => ?_
  rw [onBlock]
  split
  · rename_i statements hs
    rw [h statements (by rw [body?, hb]; exact hs)]
    exact set_eq_self (Node.blockStatements?_eq_some_iff.1 hs).2
  · rfl

theorem mapFirst_eq_self_iff {test : Json → Bool} {f : Json → Json} {items : List Json} :
    mapFirst test f items = items ↔ ∀ v, items.find? test = some v → f v = v := by
  induction items with
  | nil => simp [mapFirst]
  | cons w rest ih =>
    simp only [mapFirst]
    split_ifs with ht
    · simp [List.find?_cons_of_pos ht]
    · simp [List.find?_cons_of_neg ht, ih]

theorem replaceFirst_eq_mapFirst {test : Json → Bool} {f : Json → Json} {items : List Json}
    (h : items.find? test = some v) :
    RenderFunction.replaceFirst test (f v) items = mapFirst test f items := by
  induction items with
  | nil => cases h
  | cons w rest ih =>
    simp only [RenderFunction.replaceFirst, mapFirst]
    split_ifs with ht
    · rw [List.find?_cons_of_pos ht] at h
      cases h; rfl
    · rw [List.find?_cons_of_neg ht] at h
      rw [ih h]

/-! ### The render body -/

theorem isFunctionNamed_iff {name : String} : Node.isFunctionNamed v name = true ↔
    v.isKind "FunctionDeclaration" = true ∧ Node.functionName? v = some name := by
  simp [Node.isFunctionNamed]

/-- The render body nested in a function, with its statements. -/
def renderBody? (entry : Json) (name : String) : Option (Json × List Json) := do
  let statements ← body? entry
  let body ← statements.find? (Node.isFunctionNamed · name)
  let inner ← body? body
  return (body, inner)

/-- In a node the search for the render body does not fail. -/
theorem renderBody_eq (h : v.isNode = true) (name : String) :
    RenderFunction.renderBody v name = .ok (renderBody? v name) := by
  have hnested : Node.nestedFunction v name =
      .ok (((body? v).getD []).find? (Node.isFunctionNamed · name)) := by
    rw [Node.nestedFunction, bodyStatements_eq h]
    rfl
  rw [RenderFunction.renderBody, hnested, renderBody?]
  cases body? v with
  | none => rfl
  | some statements =>
    dsimp only [bind, Except.bind, Option.getD_some, Option.bind_some]
    cases hfind : statements.find? (Node.isFunctionNamed · name) with
    | none => rfl
    | some body =>
      -- what is found is a function, and so a node
      have htest : Node.isFunctionNamed body name = true :=
        List.find?_some (p := (Node.isFunctionNamed · name)) hfind
      have hbody := (isFunctionNamed_iff.1 htest).1
      dsimp only [Option.bind_some]
      rw [bodyStatements_eq (isNode_of_isKind hbody)]
      cases body? body <;> rfl

theorem renderBody?_eq_some_iff {name : String} {body : Json} {inner : List Json} :
    renderBody? v name = some (body, inner) ↔
      ∃ statements, body? v = some statements ∧
        statements.find? (Node.isFunctionNamed · name) = some body ∧ body? body = some inner := by
  simp only [renderBody?, bind, Option.bind_eq_some_iff, pure, Option.some.injEq, Prod.mk.injEq]
  constructor
  · rintro ⟨statements, hs, _, hb, _, hi, rfl, rfl⟩
    exact ⟨statements, hs, hb, hi⟩
  · rintro ⟨statements, hs, hb, hi⟩
    exact ⟨statements, hs, _, hb, _, hi, rfl, rfl⟩

theorem onRenderBody_eq_putRenderBody {name : String} {body : Json} {inner : List Json}
    (h : renderBody? v name = some (body, inner)) :
    onRenderBody name f v =
      RenderFunction.putRenderBody v name (RenderFunction.putBody body (f inner)) := by
  obtain ⟨statements, hs, hb, hi⟩ := renderBody?_eq_some_iff.1 h
  rw [onRenderBody, onBody_eq_putBody hs, RenderFunction.putRenderBody,
    bodyStatements_of_body? hs, ← onBody_eq_putBody hi, ← replaceFirst_eq_mapFirst hb]

/-- The statements of the render body are what `onRenderBody` changes, and all that it changes. -/
theorem onRenderBody_eq_self_iff {name : String} :
    onRenderBody name f v = v ↔
      ∀ body inner, renderBody? v name = some (body, inner) → f inner = inner := by
  constructor
  · intro h body inner hr
    obtain ⟨statements, hs, hb, hi⟩ := renderBody?_eq_some_iff.1 hr
    have hbody := congrArg body? h
    rw [onRenderBody, body?_onBody, hs, Option.map_some, Option.some.injEq,
      mapFirst_eq_self_iff] at hbody
    have hinner := congrArg body? (hbody body hb)
    rwa [body?_onBody, hi, Option.map_some, Option.some.injEq] at hinner
  · intro h
    refine onBody_eq_self fun statements hs => mapFirst_eq_self_iff.2 fun body hb => ?_
    exact onBody_eq_self fun inner hi =>
      h body inner (renderBody?_eq_some_iff.2 ⟨statements, hs, hb, hi⟩)

theorem scanned_eq (config : Config) (statements : List Json) :
    scanned config statements =
      ReferenceScan.rewritten config.resolverLocalName statements :=
  ReferenceScan.statements_fst statements _

/-- The scan of a render body gives the same statements in every context. -/
theorem statements_eq_scanned (statements : List Json) (ctx : Context) :
    (ReferenceScan.statements statements ctx).1 = scanned ctx.config statements := by
  rw [scanned_eq, ReferenceScan.statements_fst]

/-! ### The import of the runtime -/

theorem withResolver_eq_self {specifiers : Json}
    (h : ∀ items, specifiers = .arr items →
      items.any (Node.bindsLocal config.resolverLocalName) = true) :
    withResolver config specifiers = specifiers := by
  unfold withResolver
  split
  · rename_i items
    rw [if_pos (h items rfl)]
  · rfl

theorem addSpecifier_eq_update {items : List Json}
    (hs : v.get? "specifiers" = some (.arr items))
    (hb : ¬ items.any (Node.bindsLocal config.resolverLocalName) = true) :
    RuntimeImport.addSpecifier config v items = v.update "specifiers" (withResolver config) := by
  rw [← set_eq_update hs, withResolver, if_neg hb]
  rfl

theorem importSource_eq (h : v.isNode = true) : Node.importSource v =
    .ok (((v.get? "source").bind (·.get? "value")).bind text?) := by
  obtain ⟨fields, rfl⟩ := exists_fields_of_isNode h
  rfl

/-- In a list of specifiers the search for a name does not fail. -/
theorem importsLocal_eq {items : List Json} (h : v.get? "specifiers" = some (.arr items))
    (name : String) : Node.importsLocal v name = .ok (items.any (Node.bindsLocal name)) := by
  obtain ⟨fields, rfl⟩ := exists_fields_of_get? h
  have hread : (Json.obj fields).field? "specifiers" = .ok (some (.arr items)) :=
    congrArg Except.ok h
  rw [Node.importsLocal, hread]
  cases items <;> rfl

/-- What the rule for imports can do: pass by an import that it has nothing to do with, look at one
that binds the resolver already, or add the specifier. -/
theorem runtimeImport_cases (h : v.isNode = true) (ctx : Context) :
    (RuntimeImport.apply v ctx = ⟨v, ctx, .ok (some .skip)⟩ ∧
      (namesRuntime ctx.config v = true → (v.get? "specifiers").bind items? = none)) ∨
    (∃ source items, namesRuntime ctx.config v = true ∧
      v.get? "specifiers" = some (.arr items) ∧
      items.any (Node.bindsLocal ctx.config.resolverLocalName) = true ∧
      RuntimeImport.apply v ctx = ⟨v, ctx.traced (·.logInspection source "unchanged"
        ("'" ++ ctx.config.resolverLocalName ++ "' already imported")), .ok (some .skip)⟩) ∨
    (∃ items, namesRuntime ctx.config v = true ∧ v.get? "specifiers" = some (.arr items) ∧
      ¬ items.any (Node.bindsLocal ctx.config.resolverLocalName) = true ∧
      RuntimeImport.apply v ctx = ⟨RuntimeImport.addSpecifier ctx.config v items,
        (ctx.count "imports_augmented" 1).traced (·.logMutation
          { nodeType := "ImportDeclaration", before := Node.render v
            after := Node.render (RuntimeImport.addSpecifier ctx.config v items)
            index := none }), .ok (some .skip)⟩) := by
  unfold RuntimeImport.apply namesRuntime
  rw [importSource_eq h]
  cases ((v.get? "source").bind (·.get? "value")).bind text? with
  | none => exact .inl ⟨rfl, by simp⟩
  | some source =>
    simp only [Option.any_some]
    split_ifs with hends
    · cases hs : (v.get? "specifiers").bind items? with
      | none => exact .inl ⟨rfl, fun _ => rfl⟩
      | some items =>
        obtain ⟨specifiers, hv, hi⟩ := Option.bind_eq_some_iff.1 hs
        rw [items?_eq_some_iff.1 hi] at hv
        simp only [importsLocal_eq hv]
        cases hb : items.any (Node.bindsLocal ctx.config.resolverLocalName) with
        | true => exact .inr (.inl ⟨source, items, hends, hv, hb, rfl⟩)
        | false => exact .inr (.inr ⟨items, hends, hv, by simp [hb], rfl⟩)
    · exact .inl ⟨rfl, fun hn => absurd hn hends⟩

/-- The rule for imports never fails and never takes an import out. -/
theorem runtimeImport_apply (h : v.isNode = true) (ctx : Context) :
    (RuntimeImport.apply v ctx).outcome = .ok (some .skip) ∧
      (RuntimeImport.apply v ctx).node = (if namesRuntime ctx.config v then
        v.update "specifiers" (withResolver ctx.config) else v) ∧
      (RuntimeImport.apply v ctx).context.config = ctx.config := by
  obtain ⟨heq, hs⟩ | ⟨source, items, hends, hv, hb, heq⟩ | ⟨items, hends, hv, hb, heq⟩ :=
    runtimeImport_cases h ctx
  · -- without a list of specifiers the rule leaves even an import of the runtime alone
    refine ⟨by rw [heq], ?_, by rw [heq]⟩
    split_ifs with hends
    · rw [heq]
      refine (update_eq_self fun specifiers hv => withResolver_eq_self fun items hi => ?_).symm
      have := hs hends
      rw [hv, hi] at this
      cases this
    · rw [heq]
  · -- the specifiers bind the resolver already
    refine ⟨by rw [heq], ?_, by rw [heq]; rfl⟩
    rw [if_pos hends, heq]
    refine (update_eq_self fun specifiers hv' => withResolver_eq_self fun items' hi => ?_).symm
    rw [hv, hi] at hv'
    cases hv'
    exact hb
  · refine ⟨by rw [heq], ?_, by rw [heq]; rfl⟩
    rw [if_pos hends, heq]
    exact addSpecifier_eq_update hv hb

/-- An import that the rule leaves as it is moves no counter and is no edit. -/
theorem quiet_runtimeImport (h : v.isNode = true) (ctx : Context)
    (hself : (RuntimeImport.apply v ctx).node = v) :
    ctx.Quiet (RuntimeImport.apply v ctx).context := by
  obtain ⟨heq, -⟩ | ⟨source, items, -, -, -, heq⟩ | ⟨items, -, hv, -, heq⟩ :=
    runtimeImport_cases h ctx
  · rw [heq]
    exact .refl ctx
  · rw [heq]
    exact ctx.quiet_traced (Tracer.mutations_logInspection _ _ _ _)
  · -- the list of specifiers has become longer
    rw [heq, RuntimeImport.addSpecifier] at hself
    have hget : (v.set "specifiers" _).get? "specifiers" = v.get? "specifiers" :=
      congrArg (get? · "specifiers") hself
    rw [get?_set_self h, hv] at hget
    simp at hget

/-! ### Functions -/

/-- The resolution of an entry function. -/
theorem resolved?_entry (h : Node.isFunctionNamed v config.renderEntryName = true) :
    resolved? config v = some (onRenderBody config.renderBodyName (scanned config) v) := by
  rw [resolved?_of_not_program (not_isKind_of_isKind (isFunctionNamed_iff.1 h).1 (by decide)),
    resolvedStatement?, if_pos h]

/-- A function without the render body is left as it is, with a warning. -/
theorem applyToEntry_of_none (h : v.isNode = true) (name : String) {ctx : Context}
    (hb : renderBody? v ctx.config.renderBodyName = none) :
    RenderFunction.applyToEntry v name ctx =
      ⟨v, (ctx.report .warning ("'" ++ name ++ "' has no nested '" ++ ctx.config.renderBodyName ++
          "' function; left unchanged.")).traced (·.logWarning
            ("Missing '" ++ ctx.config.renderBodyName ++ "' in '" ++ name ++ "'")),
        .ok (some .skip)⟩ := by
  simp only [RenderFunction.applyToEntry, renderBody_eq h, hb]

/-- The context in which the statements of a render body are scanned. -/
def scanContext (ctx : Context) : Context :=
  ctx.traced (·.startPhase "Component References"
    ("Rewriting '" ++ ctx.config.renderBodyName ++ "'"))

/-- The statements of the render body are scanned inside a phase of their own. -/
theorem applyToEntry_of_some (h : v.isNode = true) (name : String) {ctx : Context} {body : Json}
    {inner : List Json} (hb : renderBody? v ctx.config.renderBodyName = some (body, inner)) :
    RenderFunction.applyToEntry v name ctx =
      ⟨RenderFunction.putRenderBody v ctx.config.renderBodyName (RenderFunction.putBody body
          (ReferenceScan.statements inner (scanContext ctx)).1),
        (ReferenceScan.statements inner (scanContext ctx)).2.1.traced (·.endPhase),
        .ok (some .skip)⟩ := by
  simp only [RenderFunction.applyToEntry, renderBody_eq h, hb, scanContext]

/-- The entry function as the rule leaves it, in every context. -/
theorem applyToEntry_eq (h : v.isNode = true) (name : String) (ctx : Context) :
    (RenderFunction.applyToEntry v name ctx).outcome = .ok (some .skip) ∧
      (RenderFunction.applyToEntry v name ctx).node =
        onRenderBody ctx.config.renderBodyName (scanned ctx.config) v ∧
      (RenderFunction.applyToEntry v name ctx).context.config = ctx.config := by
  cases hb : renderBody? v ctx.config.renderBodyName with
  | none =>
    have hself : onRenderBody ctx.config.renderBodyName (scanned ctx.config) v = v :=
      onRenderBody_eq_self_iff.2 fun body inner h => by rw [hb] at h; cases h
    rw [applyToEntry_of_none h name hb]
    exact ⟨rfl, hself.symm, rfl⟩
  | some result =>
    obtain ⟨body, inner⟩ := result
    rw [applyToEntry_of_some h name hb, onRenderBody_eq_putRenderBody hb, statements_eq_scanned]
    exact ⟨rfl, rfl, ReferenceScan.config_statements inner _⟩

theorem quiet_applyToEntry (h : v.isNode = true) (name : String) (ctx : Context)
    (hself : onRenderBody ctx.config.renderBodyName (scanned ctx.config) v = v) :
    ctx.Quiet (RenderFunction.applyToEntry v name ctx).context := by
  cases hb : renderBody? v ctx.config.renderBodyName with
  | none =>
    rw [applyToEntry_of_none h name hb]
    exact ⟨fun _ => rfl, by simp [Context.traced, Context.report]⟩
  | some result =>
    obtain ⟨body, inner⟩ := result
    have hinner := onRenderBody_eq_self_iff.1 hself body inner hb
    rw [scanned_eq] at hinner
    have hstart : ctx.Quiet (scanContext ctx) := ctx.quiet_traced (by simp)
    have hscan := ReferenceScan.quiet_statements inner (scanContext ctx) hinner
    have hend := (ReferenceScan.statements inner (scanContext ctx)).2.1.quiet_traced
      (f := (·.endPhase)) (by simp)
    rw [applyToEntry_of_some h name hb]
    exact (hstart.trans hscan).trans hend

/-- The rule for functions never fails, and it takes out no function but the helper. -/
theorem renderFunction_apply (h : v.isKind "FunctionDeclaration" = true) (ctx : Context) :
    (RenderFunction.apply v ctx).outcome =
        .ok (some (if (resolvedStatement? ctx.config v).isSome then .skip else .remove)) ∧
      (RenderFunction.apply v ctx).node = (resolvedStatement? ctx.config v).getD v ∧
      (RenderFunction.apply v ctx).context.config = ctx.config := by
  have himport : v.isKind "ImportDeclaration" = false :=
    isKind_eq_false_of_isKind h (by decide)
  unfold RenderFunction.apply resolvedStatement?
  simp only [isFunctionNamed_iff, h, true_and, himport, Bool.false_and]
  cases hname : Node.functionName? v with
  | none => simp
  | some name =>
    simp only [Option.some.injEq]
    by_cases hentry : name = ctx.config.renderEntryName
    · simp only [if_pos hentry]
      exact applyToEntry_eq (isNode_of_isKind h) name ctx
    · by_cases hhelper : name = ctx.config.missingReferenceName
      · simp only [if_neg hentry, if_pos hhelper]
        exact ⟨rfl, rfl, rfl⟩
      · simp [if_neg hentry, if_neg hhelper]

/-- A function that the rule leaves as it is moves no counter and is no edit. -/
theorem quiet_renderFunction (h : v.isKind "FunctionDeclaration" = true) (ctx : Context)
    (hself : resolvedStatement? ctx.config v = some v) :
    ctx.Quiet (RenderFunction.apply v ctx).context := by
  unfold RenderFunction.apply
  unfold resolvedStatement? at hself
  simp only [isFunctionNamed_iff, h, true_and] at hself
  cases hname : Node.functionName? v with
  | none => exact .refl ctx
  | some name =>
    simp only [hname, Option.some.injEq] at hself ⊢
    split_ifs at hself ⊢ with hentry hhelper
    · exact quiet_applyToEntry (isNode_of_isKind h) name ctx (Option.some.inj hself)
    · exact .refl ctx
    · exact .refl ctx

end Program

end ComponentLookup
