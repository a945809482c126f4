import ComponentLookup.Proofs.Program.Site

/-!
# Calls of the removed helper

The helper is taken out whatever calls it.  Its calls go where the scan turns an assertion into an
assignment, and the scan goes no further than the first statement that is neither a declaration nor
an assertion.  So whether the helper is dead depends on where it was called.

* `Resolver.without_calls_iff` : if the helper was called only in assertions
  (`Program.AssertionSite`), then no call of it is left **if and only if** each of these assertions
  tests an identifier and is reached by the scan (`Program.IsReached`), and each call has a list of
  arguments.
* `not_all_calls_removed` : that it was called only in assertions is not enough.

The proof goes along the places of assertions, from a branch outward (`Program.without_accepted?`,
`Program.without_rewritten`, `Program.without_onRenderBody`, `Program.without_resolved`), and back
from a call that has gone to the condition of its assertion (`Program.assertionSite_of_without`).
Calls of a function are looked for everywhere in a value, not only where an expression can stand.
-/

namespace ComponentLookup

open Json

/-- The value is a call of the function with a given name. -/
def IsCallOf (name : String) (v : Json) : Prop :=
  v.isKind "CallExpression" = true ∧ (v.get? "callee").bind Node.identifierName? = some name

instance (name : String) : DecidablePred (IsCallOf name) := fun _ => instDecidableAnd

/-- The value is a call of the function with a given name, and has no list of arguments. -/
def IsBareCallOf (name : String) (v : Json) : Prop :=
  IsCallOf name v ∧ (v.get? "arguments").bind items? = none

instance (name : String) : DecidablePred (IsBareCallOf name) := fun _ => instDecidableAnd

variable {name localName kind key : String} {v w : Json} {items : List Json}

theorem not_isCallOf_of_isKind (h : v.isKind kind = true) (hne : kind ≠ "CallExpression") :
    ¬ IsCallOf name v :=
  fun hc => not_isKind_of_isKind h hne hc.1

theorem not_isCallOf_arr : ¬ IsCallOf name (.arr items) := fun h => Bool.false_ne_true h.1

theorem without_scalar (hi : v.items? = none) (hf : v.fields? = none) :
    Without (IsCallOf name) v := by
  refine without_leaf hi hf fun h => ?_
  obtain ⟨fields, rfl⟩ := exists_fields_of_isNode (isNode_of_isKind h.1)
  cases hf

theorem without_str (s : String) : Without (IsCallOf name) (.str s) := without_scalar rfl rfl

/-- A node that is no call. -/
theorem without_obj {fields : Fields} (hk : (Json.obj fields).isKind kind = true)
    (hne : kind ≠ "CallExpression") (h : ∀ field ∈ fields, Without (IsCallOf name) field.2) :
    Without (IsCallOf name) (.obj fields) :=
  without_fields (isNode_of_isKind hk) (not_isCallOf_of_isKind hk hne)
    fun _ _ hget => h _ (Fields.mem_of_get? hget)

/-- Assigning a field of a node that is no call. -/
theorem without_set_of_isKind (hk : v.isKind kind = true) (hne : kind ≠ "CallExpression")
    (hkey : key ≠ "type") (hw : Without (IsCallOf name) w)
    (h : ∀ key' ≠ key, ∀ u, v.get? key' = some u → Without (IsCallOf name) u) :
    Without (IsCallOf name) (v.set key w) :=
  without_set (isNode_of_isKind hk) (not_isCallOf_of_isKind (by rw [isKind_set hkey, hk]) hne) hw h

/-- Changing a field of a node that is no call. -/
theorem without_update_of_isKind {f : Json → Json} (hk : v.isKind kind = true)
    (hne : kind ≠ "CallExpression") (hkey : key ≠ "type")
    (hf : ∀ w, v.get? key = some w → Without (IsCallOf name) (f w))
    (h : ∀ key' ≠ key, ∀ u, v.get? key' = some u → Without (IsCallOf name) u) :
    Without (IsCallOf name) (v.update key f) := by
  have hk' : (v.update key f).isKind kind = true := by rw [isKind_update hkey, hk]
  refine without_fields (isNode_of_isKind hk') (not_isCallOf_of_isKind hk' hne)
    fun key' w hget => ?_
  by_cases heq : key' = key
  · rw [heq, get?_update_self, Option.map_eq_some_iff] at hget
    obtain ⟨u, hu, rfl⟩ := hget
    exact hf u hu
  · rw [get?_update_of_ne heq] at hget
    exact h key' heq w hget

/-- A call with a list of arguments is recognised. -/
theorem identifierCall?_of_isCallOf (h : IsCallOf name v) (hb : ¬ IsBareCallOf name v) :
    ∃ m, Node.identifierCall? v = some m := by
  obtain ⟨callee, hcallee, hname⟩ := Option.bind_eq_some_iff.1 h.2
  have hidentifier : callee.isKind "Identifier" = true := by
    unfold Node.identifierName? at hname
    split_ifs at hname with hk
    exact hk
  obtain ⟨arguments, harguments⟩ :=
    Option.ne_none_iff_exists'.1 fun hnone => hb ⟨h, hnone⟩
  obtain ⟨list, hlist, hitems⟩ := Option.bind_eq_some_iff.1 harguments
  rw [items?_eq_some_iff.1 hitems] at hlist
  exact ⟨⟨v, callee, arguments⟩,
    Node.identifierCall?_eq_some_iff.2 ⟨h.1, rfl, hcallee, hidentifier, hlist⟩⟩

namespace Program

variable {config : Config} {ok : List Json → Nat → Prop} {s s' branch e : Json}
  {check : Node.MissingReferenceCheck} {m : Node.IdentifierCall}

/-! ### One assertion -/

/-- What an assertion is turned into calls the resolver, and so the helper if they share a name. -/
theorem isCallOf_resolverCall (hm : Node.identifierCall? e = some m) :
    IsCallOf name (ReferenceScan.resolverCall localName m) ↔ localName = name := by
  obtain ⟨hk, hcall, -, hidentifier, -⟩ := Node.identifierCall?_eq_some_iff.1 hm
  have hname : Node.identifierName? (m.callee.set "name" (.str localName)) = some localName := by
    rw [Node.identifierName?, if_pos (by rw [isKind_set (by decide), hidentifier]),
      get?_set_self (isNode_of_isKind hidentifier)]
    rfl
  rw [IsCallOf, ReferenceScan.resolverCall, hcall, isKind_set (by decide), isKind_set (by decide),
    hk, get?_set_of_ne (by decide), get?_set_self (isNode_of_isKind hk), Option.bind_some, hname,
    Option.some.injEq]
  exact and_iff_right rfl

/-- The call of the resolver is no call of the helper, and its parts are parts of the old call. -/
theorem without_resolverCall (hne : localName ≠ name) (hm : Node.identifierCall? e = some m)
    (h : ∀ key w, e.get? key = some w → Without (IsCallOf name) w) :
    Without (IsCallOf name) (ReferenceScan.resolverCall localName m) := by
  have hself : ¬ IsCallOf name (ReferenceScan.resolverCall localName m) :=
    fun hself => hne ((isCallOf_resolverCall hm).1 hself)
  obtain ⟨hk, hcall, hcallee, hidentifier, harguments⟩ := Node.identifierCall?_eq_some_iff.1 hm
  have he := isNode_of_isKind hk
  have hcallee' : Without (IsCallOf name) (m.callee.set "name" (.str localName)) :=
    without_set_of_isKind hidentifier (by decide) (by decide) (without_str localName)
      fun key _ w hw => (h _ _ hcallee).get? hw
  have he' : (e.set "callee" (m.callee.set "name" (.str localName))).isNode = true := by
    rw [isNode_set (by decide), he]
  rw [ReferenceScan.resolverCall, hcall] at hself ⊢
  refine without_set he' hself ?_ fun key hkey w hw => ?_
  · exact without_arr not_isCallOf_arr fun w hw =>
      (h _ _ harguments).mem (List.mem_of_mem_eraseIdx hw)
  · by_cases hk : key = "callee"
    · rw [hk, get?_set_self he, Option.some.injEq] at hw
      exact hw ▸ hcallee'
    · rw [get?_set_of_ne hk] at hw
      exact h key w hw

theorem without_assignment {left right operator : Json} (hl : Without (IsCallOf name) left)
    (hr : Without (IsCallOf name) right) (ho : Without (IsCallOf name) operator) :
    Without (IsCallOf name) (Node.assignment left right operator) := by
  have hk : (Node.assignment left right operator).isKind "AssignmentExpression" = true := rfl
  refine without_obj hk (by decide) ?_
  simp only [List.forall_mem_cons]
  exact ⟨without_str _, ho, hl, hr, List.forall_mem_nil _⟩

/-- A branch that called the helper at most in its expression, with another expression. -/
theorem without_putBranchExpression (hw : Within (IsCallOf name) (BranchSite branch) branch)
    (hsole : Node.soleExpressionStatement? branch = some s) (he : Without (IsCallOf name) e) :
    Without (IsCallOf name) (ReferenceScan.putBranchExpression branch e) := by
  obtain ⟨hs, heq⟩ := Node.soleExpressionStatement?_eq_some_iff.1 hsole
  rcases heq with rfl | hb
  · rw [ReferenceScan.putBranchExpression, if_pos hs]
    refine without_set_of_isKind hs (by decide) (by decide) he
      (hw.without_other fun path hsite => ?_)
    exact ⟨_, branchSite_of_isKind hs hsite⟩
  · have hblock := Node.blockStatements?_eq_some_iff.1 hb
    have hne : ¬ branch.isKind "ExpressionStatement" = true :=
      not_isKind_of_isKind hblock.1 (by decide)
    have hstatement : Without (IsCallOf name) (s.set "expression" e) := by
      refine without_set_of_isKind hs (by decide) (by decide) he
        ((hw.get? hblock.2).head.without_other fun path hsite => ?_)
      cases branchSite_of_isKind_block hblock.1 hsite
      exact ⟨_, rfl⟩
    simp only [ReferenceScan.putBranchExpression, if_neg hne, hb]
    refine without_set_of_isKind hblock.1 (by decide) (by decide)
      (without_arr not_isCallOf_arr fun w hmem => ?_) (hw.without_other fun path hsite => ?_)
    · rw [List.mem_singleton.1 hmem]
      exact hstatement
    · exact ⟨_, branchSite_of_isKind_block hblock.1 hsite⟩

theorem without_resolve (hne : localName ≠ name) (hc : Node.missingReferenceCheck? s = some check)
    (hm : Node.identifierCall? check.expression = some m)
    (hw : Within (IsCallOf name) (StatementSite s) s) :
    Without (IsCallOf name) (ReferenceScan.resolve localName check m) := by
  obtain ⟨hk, -, hi, -, he, -⟩ := Node.missingReferenceCheck?_eq_some_iff.1 hc
  obtain ⟨test, htest, hi⟩ := Option.bind_eq_some_iff.1 hi
  obtain ⟨branch, hbranch, hsole, hresolve⟩ := ReferenceScan.resolve_eq hc
  have hother : ∀ key ≠ "consequent", ∀ w, s.get? key = some w → Without (IsCallOf name) w := by
    refine hw.without_other ?_
    rintro path ⟨-, _, rest, -, -, rfl⟩
    exact ⟨rest, rfl⟩
  have hwithin : Within (IsCallOf name) (BranchSite branch) branch := by
    refine (hw.get? hbranch).mono ?_
    rintro path ⟨-, _, _, hbranch', hsite, heq⟩
    cases heq
    rw [hbranch, Option.some.injEq] at hbranch'
    exact hbranch' ▸ hsite
  -- below the expression of the branch there is no place for another call
  obtain ⟨path, hpath, hunique⟩ := exists_branchSite hsole
  have hparts : ∀ key w, check.expression.get? key = some w → Without (IsCallOf name) w := by
    intro key w hget
    have hat := (at?_of_branchSite hpath hsole).trans he
    refine ((hwithin.at? hat).get? hget).without fun rest hrest => ?_
    have hlength := congrArg List.length (hunique _ hrest)
    rw [List.length_append, List.length_cons] at hlength
    omega
  have hidentifier : Without (IsCallOf name) check.identifier :=
    (hother _ (by decide) _ htest).get? (Node.negatedIdentifier?_eq_some_iff.1 hi).2.2.1
  have hassignment := without_assignment hidentifier (without_resolverCall hne hm hparts)
    (without_str "=")
  rw [hresolve]
  exact without_set_of_isKind hk (by decide) (by decide)
    (without_putBranchExpression hwithin hsole hassignment) hother

/-- **A statement that the scan has passed** calls the helper no more. -/
theorem without_accepted? (hne : localName ≠ name)
    (h : ReferenceScan.accepted? localName s = some s') (hb : Without (IsBareCallOf name) s)
    (hw : Within (IsCallOf name) (StatementSite s) s) : Without (IsCallOf name) s' := by
  unfold ReferenceScan.accepted? at h
  split_ifs at h with hv
  · cases h
    have hs : Without (IsCallOf name) s := hw.without fun path hsite =>
      absurd hsite.1.1 (not_isKind_of_isKind hv (by decide))
    exact without_set_of_isKind hv (by decide) (by decide) (without_str _)
      fun key _ w hget => hs.get? hget
  · obtain ⟨check, hc, h⟩ := Option.map_eq_some_iff.1 h
    cases hm : Node.identifierCall? check.expression with
    | none =>
      -- a call in this assertion would have been recognised
      simp only [hm] at h
      subst h
      intro path call hat hcall
      obtain ⟨m, hm'⟩ := identifierCall?_of_isCallOf hcall (hb path call hat)
      rw [at?_of_statementSite hc (hw path call hat hcall), Option.some.injEq] at hat
      rw [hat, hm'] at hm
      cases hm
    | some m =>
      simp only [hm] at h
      exact h ▸ without_resolve hne hc hm hw

/-! ### The statements of a render body -/

/-- A statement that calls the helper in its place is an assertion, if it tests an identifier. -/
theorem isPassed_of_statementSite {path : Path} (hsite : StatementSite s path)
    (hidentifier : ((s.get? "test").bind Node.negatedIdentifier?).isSome = true)
    (hw : at? path s = some w) (hcall : IsCallOf name w) : IsPassed s := by
  obtain ⟨⟨hk, -⟩, branch, rest, hbranch, hbranchSite, rfl⟩ := hsite
  obtain ⟨identifier, hi⟩ := Option.isSome_iff_exists.1 hidentifier
  have hsole : ∃ u, Node.soleExpressionStatement? branch = some u := by
    rcases hbranchSite with ⟨hb, -⟩ | ⟨u, hu, hb, -⟩
    · exact ⟨branch, Node.soleExpressionStatement?_eq_some_iff.2 ⟨hb, .inl rfl⟩⟩
    · exact ⟨u, Node.soleExpressionStatement?_eq_some_iff.2 ⟨hb, .inr hu⟩⟩
  obtain ⟨u, hu⟩ := hsole
  rw [at?_field, hbranch, Option.bind_some, at?_of_branchSite hbranchSite hu] at hw
  refine .inr (Option.isSome_iff_exists.2 ⟨⟨s, identifier, u, w⟩, ?_⟩)
  exact Node.missingReferenceCheck?_eq_some_iff.2
    ⟨hk, rfl, hi, by rw [hbranch]; exact hu, hw, isNode_of_isKind hcall.1⟩

/-- **The statements after a scan** call the helper no more, if each assertion that calls it tests
an identifier and is reached. -/
theorem without_rewritten (hne : localName ≠ name) {statements : List Json}
    (hb : Without (IsBareCallOf name) (.arr statements))
    (hw : Within (IsCallOf name) (GuardSite IsReached statements) (.arr statements)) :
    ∀ s ∈ ReferenceScan.rewritten localName statements, Without (IsCallOf name) s := by
  induction statements with
  | nil => simp [ReferenceScan.rewritten]
  | cons s rest ih =>
    have hfirst : Within (IsCallOf name)
        (fun path => IsReached (s :: rest) 0 ∧ StatementSite s path) s :=
      hw.head.mono fun path => guardSite_zero
    have hrest := hw.tail not_isCallOf_arr
    cases ha : ReferenceScan.accepted? localName s with
    | none =>
      -- the scan ends here, so that no assertion from here on calls the helper
      have hpassed : ¬ IsPassed s := fun h => isPassed_iff.1 h ha
      simp only [ReferenceScan.rewritten, ha, List.forall_mem_cons]
      refine ⟨fun path w hpath hcall => ?_, fun u hu => hrest.without_mem ?_ hu⟩
      · obtain ⟨⟨⟨t, ht, hidentifier⟩, -⟩, hsite⟩ := hfirst path w hpath hcall
        cases ht
        exact hpassed (isPassed_of_statementSite hsite hidentifier hpath hcall)
      · rintro index path ⟨_, _, heq, hsite⟩
        cases heq
        exact hpassed (guardSite_succ hsite).1
    | some s' =>
      simp only [ReferenceScan.rewritten, ha, List.forall_mem_cons]
      refine ⟨without_accepted? hne ha (hb.mem List.mem_cons_self) (hfirst.mono fun _ => And.right),
        ih ?_ (hrest.mono ?_)⟩
      · exact without_arr (fun h => not_isCallOf_arr h.1) fun u hu =>
          hb.mem (List.mem_cons_of_mem s hu)
      · rintro path ⟨index, path', rfl, hsite⟩
        exact (guardSite_succ hsite).2

/-! ### Functions -/

variable {f : List Json → List Json} {g : Json → Json} {test : Json → Bool}

theorem without_body? {P : Json → Prop} {statements : List Json} (h : Without P v)
    (hv : body? v = some statements) : Without P (.arr statements) :=
  fun path w hw => h (.field "body" :: .field "body" :: path) w (by rw [at?_body hv, hw])

theorem without_onBlock {site : List Json → Path → Prop} (hblock : v.get? "body" = some w)
    (hw : Within (IsCallOf name) (BodySite site v) v)
    (hf : ∀ statements, body? v = some statements →
      Within (IsCallOf name) (site statements) (.arr statements) →
        ∀ s ∈ f statements, Without (IsCallOf name) s) :
    Without (IsCallOf name) (onBlock f w) := by
  have hwithin := hw.get? hblock
  unfold onBlock
  split
  · rename_i statements hs
    have hbody : body? v = some statements := by rw [body?, hblock]; exact hs
    obtain ⟨hkind, hlist⟩ := Node.blockStatements?_eq_some_iff.1 hs
    have hstatements : Within (IsCallOf name) (site statements) (.arr statements) := by
      refine (hwithin.get? hlist).mono ?_
      rintro path ⟨_, _, hbody', hsite, heq⟩
      cases heq
      rw [hbody, Option.some.injEq] at hbody'
      exact hbody' ▸ hsite
    refine without_set_of_isKind hkind (by decide) (by decide)
      (without_arr not_isCallOf_arr (hf statements hbody hstatements)) (hwithin.without_other ?_)
    rintro path ⟨_, rest, -, -, heq⟩
    cases heq
    exact ⟨rest, rfl⟩
  · -- without statements there is no place for a call
    rename_i hs
    refine hwithin.without ?_
    rintro path ⟨statements, _, hbody, -, -⟩
    rw [body?, hblock, Option.bind_some, hs] at hbody
    cases hbody

theorem without_onBody {site : List Json → Path → Prop}
    (hv : v.isKind "FunctionDeclaration" = true)
    (hw : Within (IsCallOf name) (BodySite site v) v)
    (hf : ∀ statements, body? v = some statements →
      Within (IsCallOf name) (site statements) (.arr statements) →
        ∀ s ∈ f statements, Without (IsCallOf name) s) :
    Without (IsCallOf name) (onBody f v) := by
  refine without_update_of_isKind hv (by decide) (by decide)
    (fun block hblock => without_onBlock hblock hw hf) (hw.without_other ?_)
  rintro path ⟨_, rest, -, -, rfl⟩
  exact ⟨_, rfl⟩

theorem without_mapFirst {site : Json → Path → Prop}
    (hw : Within (IsCallOf name) (FirstSite test site items) (.arr items))
    (hg : ∀ v ∈ items, test v = true → Within (IsCallOf name) (site v) v →
      Without (IsCallOf name) (g v)) :
    ∀ w ∈ mapFirst test g items, Without (IsCallOf name) w := by
  induction items with
  | nil => simp [mapFirst]
  | cons v rest ih =>
    have hfirst : Within (IsCallOf name) (fun path => test v = true ∧ site v path) v :=
      hw.head.mono fun _ => firstSite_zero
    have hrest := hw.tail not_isCallOf_arr
    simp only [mapFirst]
    split_ifs with ht <;> rw [List.forall_mem_cons]
    · -- behind the first item that satisfies the test there is no place for a call
      refine ⟨hg v List.mem_cons_self ht (hfirst.mono fun _ => And.right),
        fun u hu => hrest.without_mem ?_ hu⟩
      rintro index path ⟨_, _, heq, hsite⟩
      cases heq
      exact (firstSite_succ hsite).1 ht
    · refine ⟨hfirst.without fun _ hsite => ht hsite.1,
        ih (hrest.mono ?_) fun v hv => hg v (List.mem_cons_of_mem _ hv)⟩
      rintro path ⟨index, _, rfl, hsite⟩
      exact (firstSite_succ hsite).2

/-- An entry function calls the helper no more, if it did so only in assertions that are reached. -/
theorem without_onRenderBody (hne : config.resolverLocalName ≠ name)
    (hv : Node.isFunctionNamed v config.renderEntryName = true)
    (hb : Without (IsBareCallOf name) v)
    (hw : Within (IsCallOf name) (EntrySite config IsReached v) v) :
    Without (IsCallOf name) (onRenderBody config.renderBodyName (scanned config) v) := by
  refine without_onBody (isFunctionNamed_iff.1 hv).1 (hw.mono fun _ => And.right)
    fun statements hs hstatements => without_mapFirst hstatements fun body hmem htest hwithin => ?_
  refine without_onBody (isFunctionNamed_iff.1 htest).1 hwithin fun inner hi hguard => ?_
  rw [scanned_eq]
  exact without_rewritten hne (without_body? ((without_body? hb hs).mem hmem) hi) hguard

/-! ### Programs -/

theorem without_identifier (hv : Without (IsCallOf name) v) :
    Without (IsCallOf name) (Node.identifier v) := by
  have hk : (Node.identifier v).isKind "Identifier" = true := rfl
  refine without_obj hk (by decide) ?_
  simp only [List.forall_mem_cons]
  exact ⟨without_str _, hv, List.forall_mem_nil _⟩

theorem without_importSpecifier (hv : Without (IsCallOf name) v) (hw : Without (IsCallOf name) w) :
    Without (IsCallOf name) (Node.importSpecifier v w) := by
  have hk : (Node.importSpecifier v w).isKind "ImportSpecifier" = true := rfl
  refine without_obj hk (by decide) ?_
  simp only [List.forall_mem_cons]
  exact ⟨without_str _, without_identifier hv, without_identifier hw, List.forall_mem_nil _⟩

theorem without_withResolver (h : Without (IsCallOf name) v) :
    Without (IsCallOf name) (withResolver config v) := by
  unfold withResolver
  split
  · rename_i items
    split_ifs
    · exact h
    · refine without_arr not_isCallOf_arr fun w hw => ?_
      rcases List.mem_append.1 hw with hw | hw
      · exact h.mem hw
      · rw [List.mem_singleton.1 hw]
        exact without_importSpecifier (without_str _) (without_str _)
  · exact h

theorem without_resolvedStatement? (hne : config.resolverLocalName ≠ name)
    (h : resolvedStatement? config v = some w) (hv : Without (IsCallOf name) v) :
    Without (IsCallOf name) w := by
  unfold resolvedStatement? at h
  split_ifs at h with hentry _ himport <;> rw [← Option.some.inj h]
  · exact without_onRenderBody hne hentry (fun path u hu hcall => hv path u hu hcall.1) hv.within
  · rw [Bool.and_eq_true] at himport
    exact without_update_of_isKind himport.1 (by decide) (by decide)
      (fun specifiers hs => without_withResolver (hv.get? hs)) fun key _ u hu => hv.get? hu
  · exact hv

theorem without_resolvedValue
    (h : ∀ u ∈ standing v, ∀ w, resolved? config u = some w → Without (IsCallOf name) w) :
    Without (IsCallOf name) (resolvedValue config v) := by
  cases v with
  | arr items =>
    rw [resolvedValue_arr, resolvedItems_eq_filterMap]
    refine without_arr not_isCallOf_arr fun w hw => ?_
    obtain ⟨u, hu, hr⟩ := List.mem_filterMap.1 hw
    exact h u hu w hr
  | obj fields =>
    rw [resolvedValue_obj]
    cases hr : resolved? config (.obj fields) with
    | none => exact without_scalar rfl rfl
    | some w => exact h _ List.mem_cons_self w hr
  | _ => exact h _ List.mem_cons_self _ rfl

theorem without_resolvedFields {fields : Fields} (hp : (Json.obj fields).isKind "Program" = true)
    (htype : ∀ v, Fields.get? "type" fields = some v → Without (IsCallOf name) v)
    (h : ∀ key ≠ "type", ∀ v, Fields.get? key fields = some v → ∀ u ∈ standing v, ∀ w,
      resolved? config u = some w → Without (IsCallOf name) w) :
    Without (IsCallOf name) (.obj (resolvedFields config fields)) := by
  have hkind : (Json.obj (resolvedFields config fields)).isKind "Program" = true := by
    rw [isKind_iff, kind?_resolved? (resolved?_program hp), isKind_iff.1 hp]
  refine without_fields (isNode_of_isKind hkind) (not_isCallOf_of_isKind hkind (by decide))
    fun key w hget => ?_
  obtain ⟨v, hv, rfl⟩ := Option.map_eq_some_iff.1 (get?_resolvedFields.symm.trans hget)
  split_ifs with hkey
  · exact htype v (hkey ▸ hv)
  · exact without_resolvedValue (h key hkey v hv)

/-- What called the helper nowhere does not call it after the resolution. -/
theorem without_resolved? (hne : config.resolverLocalName ≠ name)
    (h : resolved? config v = some w) (hv : Without (IsCallOf name) v) :
    Without (IsCallOf name) w := by
  induction v using induct generalizing w with
  | other v hp =>
    rw [resolved?_of_not_program hp] at h
    exact without_resolvedStatement? hne h hv
  | program fields hp ih =>
    rw [resolved?_program hp] at h
    rw [← Option.some.inj h]
    refine without_resolvedFields hp (fun v hget => hv.get? hget)
      fun key _ v hget u hu w hw => ih (key, v) (Fields.mem_of_get? hget) u hu hw ?_
    have hvalue : Without (IsCallOf name) v := hv.get? hget
    cases v with
    | arr items => exact hvalue.mem hu
    | _ => rw [List.mem_singleton.1 hu]; exact hvalue

/-- What stands directly in a program and called the helper only in assertions that are reached. -/
theorem without_resolved?_of_entrySite (hne : config.resolverLocalName ≠ name)
    (h : resolved? config v = some w) (hb : Without (IsBareCallOf name) v)
    (hw : Within (IsCallOf name) (EntrySite config IsReached v) v) :
    Without (IsCallOf name) w := by
  by_cases hentry : Node.isFunctionNamed v config.renderEntryName = true
  · rw [resolved?_entry hentry] at h
    exact Option.some.inj h ▸ without_onRenderBody hne hentry hb hw
  · exact without_resolved? hne h (hw.without fun _ hsite => hentry hsite.1)

/-- **A resolved program** calls the helper no more, if it did so only in assertions that test an
identifier and are reached by the scan. -/
theorem without_resolved (hne : config.resolverLocalName ≠ name)
    (hp : v.isKind "Program" = true) (hb : Without (IsBareCallOf name) v)
    (hw : Within (IsCallOf name) (AssertionSite config IsReached v) v) :
    Without (IsCallOf name) (resolved config v) := by
  obtain ⟨fields, rfl⟩ := exists_fields_of_isNode (isNode_of_isKind hp)
  rw [resolved, resolved?_program hp, Option.getD_some]
  refine without_resolvedFields hp (fun u hget => (hw.get? hget).without ?_)
    fun key hkey u hget x hx w hr => ?_
  · rintro path ⟨_, _, htype, -, ⟨_, -, heq⟩ | ⟨_, _, _, _, -, -, -, heq⟩⟩ <;>
      cases heq <;> exact htype rfl
  · have hwithin := hw.get? hget
    have hbare := hb.get? hget
    cases u with
    | arr items =>
      obtain ⟨index, hindex⟩ := List.mem_iff_getElem?.1 hx
      exact without_resolved?_of_entrySite hne hr (hbare.mem hx)
        ((hwithin.item hindex).mono fun _ => entrySite_of_item hget hindex)
    | _ =>
      rw [List.mem_singleton.1 hx] at hr
      exact without_resolved?_of_entrySite hne hr hbare
        (hwithin.mono fun _ => entrySite_of_field hget rfl)

/-! ### Assertions that are left -/

/-- An assertion that calls the helper no more after the scan has passed it tests an identifier and
had a list of arguments. -/
theorem of_without_accepted? {path : Path} (ha : ReferenceScan.accepted? localName s = some s')
    (hout : Without (IsCallOf name) s') (hsite : StatementSite s path)
    (hat : at? path s = some w) (hcall : IsCallOf name w) :
    ((s.get? "test").bind Node.negatedIdentifier?).isSome = true ∧ ¬ IsBareCallOf name w := by
  unfold ReferenceScan.accepted? at ha
  split_ifs at ha with hv
  · exact absurd hsite.1.1 (not_isKind_of_isKind hv (by decide))
  · obtain ⟨check, hc, ha⟩ := Option.map_eq_some_iff.1 ha
    cases hm : Node.identifierCall? check.expression with
    | none =>
      simp only [hm] at ha
      exact absurd hcall ((ha ▸ hout) path w hat)
    | some m =>
      obtain ⟨-, -, hi, -, -, -⟩ := Node.missingReferenceCheck?_eq_some_iff.1 hc
      obtain ⟨-, -, -, -, harguments⟩ := Node.identifierCall?_eq_some_iff.1 hm
      rw [at?_of_statementSite hc hsite, Option.some.injEq] at hat
      refine ⟨Option.isSome_iff_exists.2 ⟨_, hi⟩, fun hbare => ?_⟩
      have hnone := hbare.2
      rw [← hat, harguments] at hnone
      cases hnone

/-- An assertion that calls the helper no more after the scan was reached, tests an identifier and
had a list of arguments. -/
theorem isReached_of_without_rewritten {statements : List Json} {index : Nat} {path : Path}
    (hout : ∀ s ∈ ReferenceScan.rewritten localName statements, Without (IsCallOf name) s)
    (hs : statements[index]? = some s) (hsite : StatementSite s path)
    (hat : at? path s = some w) (hcall : IsCallOf name w) :
    IsReached statements index ∧ ¬ IsBareCallOf name w := by
  induction statements generalizing index with
  | nil => cases hs
  | cons u rest ih =>
    cases ha : ReferenceScan.accepted? localName u with
    | none =>
      simp only [ReferenceScan.rewritten, ha] at hout
      exact absurd hcall (hout s (List.mem_of_getElem? hs) path w hat)
    | some u' =>
      simp only [ReferenceScan.rewritten, ha, List.forall_mem_cons] at hout
      cases index with
      | zero =>
        cases hs
        obtain ⟨hidentifier, hbare⟩ := of_without_accepted? ha hout.1 hsite hat hcall
        exact ⟨⟨⟨s, rfl, hidentifier⟩, fun i hi => absurd hi (Nat.not_lt_zero i)⟩, hbare⟩
      | succ index =>
        rw [List.getElem?_cons_succ] at hs
        obtain ⟨⟨⟨t, ht, hidentifier⟩, hpassed⟩, hbare⟩ := ih hout.2 hs
        refine ⟨⟨⟨t, ht, hidentifier⟩, fun i hi v hv => ?_⟩, hbare⟩
        cases i with
        | zero =>
          cases hv
          exact isPassed_iff.2 (by rw [ha]; exact Option.some_ne_none u')
        | succ i => exact hpassed i (Nat.lt_of_succ_lt_succ hi) v hv

/-- What stands directly in a program has its resolution in the resolved program. -/
theorem without_of_resolvedValue (h : Without (IsCallOf name) (resolvedValue config v))
    (hu : w ∈ standing v) {u : Json} (hr : resolved? config w = some u) :
    Without (IsCallOf name) u := by
  cases v with
  | arr items =>
    rw [resolvedValue_arr, resolvedItems_eq_filterMap] at h
    exact h.mem (List.mem_filterMap.2 ⟨w, hu, hr⟩)
  | obj fields =>
    rw [List.mem_singleton.1 hu] at hr
    rwa [resolvedValue_obj, hr, Option.getD_some] at h
  | _ =>
    rw [List.mem_singleton.1 hu] at hr
    exact Option.some.inj hr ▸ h

theorem mem_mapFirst {index : Nat} (hv : items[index]? = some v) (htest : test v = true)
    (hbefore : ∀ i < index, ∀ u, items[i]? = some u → ¬ test u = true) :
    g v ∈ mapFirst test g items := by
  induction items generalizing index with
  | nil => cases hv
  | cons u rest ih =>
    simp only [mapFirst]
    cases index with
    | zero =>
      cases hv
      rw [if_pos htest]
      exact List.mem_cons_self
    | succ index =>
      rw [if_neg (hbefore 0 (Nat.succ_pos _) u rfl)]
      exact List.mem_cons_of_mem _ (ih hv fun i hi => hbefore (i + 1) (Nat.succ_lt_succ hi))

/-- The place of a call in an entry function that calls the helper no more afterwards. -/
theorem entrySite_of_without {path : Path} (hsite : EntrySite config ok v path)
    (hout : ∀ u, resolved? config v = some u → Without (IsCallOf name) u)
    (hat : at? path v = some w) (hcall : IsCallOf name w) :
    EntrySite config IsReached v path ∧ ¬ IsBareCallOf name w := by
  obtain ⟨hentry, statements, _, hs, ⟨index, body, _, hbody, htest, hbefore,
    ⟨inner, _, hi, ⟨index', s, rest, hs', -, hsite, rfl⟩, rfl⟩, rfl⟩, rfl⟩ := hsite
  -- the statements of the render body after the scan
  have hbodyOut : Without (IsCallOf name) (onBody (scanned config) body) :=
    (without_body? (hout _ (resolved?_entry hentry))
      (by rw [onRenderBody, body?_onBody, hs]; rfl)).mem (mem_mapFirst hbody htest hbefore)
  have hinner : Without (IsCallOf name) (.arr (scanned config inner)) :=
    without_body? hbodyOut (by rw [body?_onBody, hi]; rfl)
  rw [scanned_eq] at hinner
  rw [at?_body hs, at?_item_arr, hbody, Option.bind_some, at?_body hi, at?_item_arr, hs',
    Option.bind_some] at hat
  obtain ⟨hreached, hbare⟩ :=
    isReached_of_without_rewritten (fun _ => hinner.mem) hs' hsite hat hcall
  exact ⟨⟨hentry, statements, _, hs, ⟨index, body, _, hbody, htest, hbefore,
    ⟨inner, _, hi, ⟨index', s, rest, hs', hreached, hsite, rfl⟩, rfl⟩, rfl⟩, rfl⟩, hbare⟩

/-- **A resolved program** in which the helper is called no more had called it with a list of
arguments, and in assertions that test an identifier and are reached by the scan. -/
theorem assertionSite_of_without {path : Path} (hp : v.isKind "Program" = true)
    (hout : Without (IsCallOf name) (resolved config v)) (hsite : AssertionSite config ok v path)
    (hat : at? path v = some w) (hcall : IsCallOf name w) :
    AssertionSite config IsReached v path ∧ ¬ IsBareCallOf name w := by
  obtain ⟨fields, rfl⟩ := exists_fields_of_isNode (isNode_of_isKind hp)
  rw [resolved, resolved?_program hp, Option.getD_some] at hout
  obtain ⟨key, u, hkey, hu, hchild⟩ := hsite
  have hget : (Json.obj (resolvedFields config fields)).get? key =
      some (resolvedValue config u) := by
    rw [Json.get?, get?_resolvedFields, show Fields.get? key fields = some u from hu,
      Option.map_some, if_neg hkey]
  have hvalue := hout.get? hget
  rcases hchild with ⟨rest, hsite, rfl⟩ | ⟨items, index, x, rest, rfl, hx, hsite, rfl⟩
  · rw [at?_field, hu, Option.bind_some] at hat
    have hstanding : u ∈ standing u := by
      obtain ⟨w, rfl⟩ :=
        exists_fields_of_isNode (isNode_of_isKind (isFunctionNamed_iff.1 hsite.1).1)
      exact List.mem_cons_self
    obtain ⟨hsite, hbare⟩ := entrySite_of_without hsite
      (fun _ => without_of_resolvedValue hvalue hstanding) hat hcall
    exact ⟨⟨key, u, hkey, hu, .inl ⟨rest, hsite, rfl⟩⟩, hbare⟩
  · rw [at?_field, hu, Option.bind_some, at?_item_arr, hx, Option.bind_some] at hat
    obtain ⟨hsite, hbare⟩ := entrySite_of_without hsite
      (fun _ => without_of_resolvedValue hvalue (List.mem_of_getElem? hx)) hat hcall
    exact ⟨⟨key, _, hkey, hu, .inr ⟨items, index, x, rest, rfl, hx, hsite, rfl⟩⟩, hbare⟩

end Program

/-! ### Resolutions -/

namespace Resolver

variable {r : Resolver} {registry : Registry} {tree : Json}

/-- **No call of the helper is left**, of those in assertions, if and only if each of them has a
list of arguments and stands in an assertion that tests an identifier and is reached by the scan. -/
theorem without_calls_iff (h : registry.OnlyBuiltins)
    (hne : r.config.resolverLocalName ≠ r.config.missingReferenceName)
    (hp : tree.isKind "Program" = true) (hd : tree.DistinctKeys)
    (hw : Within (IsCallOf r.config.missingReferenceName)
      (Program.AssertionSite r.config (fun _ _ => True) tree) tree) :
    Without (IsCallOf r.config.missingReferenceName) (r.resolve registry tree).tree ↔
      Without (IsBareCallOf r.config.missingReferenceName) tree ∧
        Within (IsCallOf r.config.missingReferenceName)
          (Program.AssertionSite r.config Program.IsReached tree) tree := by
  rw [r.tree_resolve h hp hd]
  constructor
  · intro hout
    exact ⟨fun path w hat hbare => (Program.assertionSite_of_without hp hout
        (hw path w hat hbare.1) hat hbare.1).2 hbare,
      fun path w hat hcall => (Program.assertionSite_of_without hp hout
        (hw path w hat hcall) hat hcall).1⟩
  · rintro ⟨hb, hreached⟩
    exact Program.without_resolved hne hp hb hreached

end Resolver

/-! ### Two samples -/

namespace Sample

/-- The place of the expression in a statement of the render body, with the entry function in front
of a program. -/
def placeIn (index : Nat) : Path :=
  [.field "body", .item 0, .field "body", .field "body", .item 0, .field "body", .field "body",
    .item index, .field "consequent", .field "expression"]

/-- A statement of the render body that tests a negation is at a place of assertions. -/
theorem assertionSite_placeIn {ok : List Json → Nat → Prop} {statements rest : List Json}
    {index : Nat} {argument e : Json} (hok : ok statements index)
    (hs : statements[index]? = some (ifNot argument (statement e))) :
    Program.AssertionSite .default ok (program (entry statements :: rest)) (placeIn index) := by
  have hsite : Program.StatementSite (ifNot argument (statement e))
      [.field "consequent", .field "expression"] :=
    ⟨⟨rfl, _, rfl, rfl, rfl⟩, _, _, rfl, .inl ⟨rfl, rfl⟩, rfl⟩
  have hbody : Program.BodySite (Program.GuardSite ok) (function "_createMdxContent" statements)
      [.field "body", .field "body", .item index, .field "consequent", .field "expression"] :=
    ⟨statements, _, rfl, ⟨index, _, _, hs, hok, hsite, rfl⟩, rfl⟩
  exact ⟨"body", _, by decide, rfl, .inr ⟨_, 0, _, _, rfl, rfl, ⟨rfl, _, _, rfl,
    ⟨0, _, _, rfl, rfl, fun i hi => absurd hi (Nat.not_lt_zero i), hbody, rfl⟩, rfl⟩, rfl⟩⟩

/-- A program all of whose assertions are reached. -/
def deadHelper : Json :=
  program [entry [declaration "const", assertion "Foo", assertion "Bar"], helper]

/-- A program whose assertion tests a member of an object. -/
def memberAssertion : Json :=
  program [entry [ifNot (.obj [("type", .str "MemberExpression"),
      ("object", Node.identifier (.str "a")), ("property", Node.identifier (.str "b"))])
    (statement (call "_missingMdxReference" [literal (.str "a.b"), literal (.bool true)]))], helper]

end Sample

open Sample in
theorem without_calls_deadHelper :
    deadHelper.isKind "Program" = true ∧ deadHelper.DistinctKeys ∧
      Within (IsCallOf "_missingMdxReference")
        (Program.AssertionSite .default (fun _ _ => True) deadHelper) deadHelper ∧
      Without (IsBareCallOf "_missingMdxReference") deadHelper ∧
      Without (IsCallOf "_missingMdxReference")
        ((Resolver.new .default none).resolve .initial deadHelper).tree := by
  have hp : deadHelper.isKind "Program" = true := by decide
  have hd : deadHelper.DistinctKeys := by decide
  have hb : Without (IsBareCallOf "_missingMdxReference") deadHelper :=
    without_of_places (by decide)
  have hplaces : ∀ place ∈ places deadHelper, IsCallOf "_missingMdxReference" place.2 →
      place.1 = placeIn 1 ∨ place.1 = placeIn 2 := by decide
  have hsites : ∀ {ok : List Json → Nat → Prop},
      ok [declaration "const", assertion "Foo", assertion "Bar"] 1 →
      ok [declaration "const", assertion "Foo", assertion "Bar"] 2 →
      Within (IsCallOf "_missingMdxReference") (Program.AssertionSite .default ok deadHelper)
        deadHelper := fun h₁ h₂ => within_of_places fun place hplace hcall => by
    rcases hplaces place hplace hcall with heq | heq <;> rw [heq]
    · exact assertionSite_placeIn h₁ rfl
    · exact assertionSite_placeIn h₂ rfl
  have hreached : Within (IsCallOf "_missingMdxReference")
      (Program.AssertionSite .default Program.IsReached deadHelper) deadHelper := by
    refine hsites ⟨⟨_, rfl, rfl⟩, fun i hi s hs => ?_⟩ ⟨⟨_, rfl, rfl⟩, fun i hi s hs => ?_⟩
    · obtain rfl : i = 0 := by omega
      cases hs
      exact .inl rfl
    · obtain rfl | rfl : i = 0 ∨ i = 1 := by omega
      · cases hs
        exact .inl rfl
      · cases hs
        exact .inr rfl
  exact ⟨hp, hd, hsites trivial trivial, hb,
    ((Resolver.new .default none).without_calls_iff Registry.onlyBuiltins_initial (by decide) hp hd
      (hsites trivial trivial)).2 ⟨hb, hreached⟩⟩

/-- It is not enough for the helper to be dead that negated tests guard its calls: the scan ends at
one that tests no identifier. -/
theorem not_all_calls_removed :
    ¬ ∀ (r : Resolver) (registry : Registry) (tree : Json), registry.OnlyBuiltins →
      r.config.IsValid → tree.isKind "Program" = true → tree.DistinctKeys →
      Within (IsCallOf r.config.missingReferenceName)
        (Program.AssertionSite r.config (fun _ _ => True) tree) tree →
      (∃ ctx, (r.resolve registry tree).resolver.last = some ctx ∧
        0 < ctx.stats.get "helpers_removed") →
      Without (IsCallOf r.config.missingReferenceName) (r.resolve registry tree).tree := by
  intro hclaim
  have hplaces : ∀ place ∈ places Sample.memberAssertion,
      IsCallOf "_missingMdxReference" place.2 → place.1 = Sample.placeIn 0 := by decide
  have hout := hclaim (.new .default none) .initial Sample.memberAssertion
    Registry.onlyBuiltins_initial (by unfold Config.IsValid; decide) (by decide) (by decide)
    (within_of_places fun place hplace hcall => by
      rw [hplaces place hplace hcall]
      exact Sample.assertionSite_placeIn trivial rfl)
    ⟨_, rfl, by decide⟩
  exact hout (Sample.placeIn 0) _ rfl (by decide)

end ComponentLookup
