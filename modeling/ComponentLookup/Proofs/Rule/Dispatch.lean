import ComponentLookup.Proofs.Rule.Builtin
import ComponentLookup.Proofs.Walk.Tour

/-!
# The dispatch under the built-in rules

With no other rule registered, a visit asks for nothing but what the declarative resolution says.

* `Registry.OnlyBuiltins` : the look-ups find the built-in rules and no others.  The registry at the
  start is such a one (`onlyBuiltins_initial`), and look-ups keep it (`OnlyBuiltins.find_snd`).
* `handled` : the reply that a node gets then, whatever its type.  `handled_eq` compares it with
  `Program.resolvedStatement?`.
* `dispatch_eq` : the dispatch of a node is `handled`.
* `isLocal_ruleVisitor` : the walk is a tour.
-/

namespace ComponentLookup

open Json

/-! ### Registries -/

namespace Registry

/-- The built-in rule for a node type. -/
def builtin? (kind : String) : Option Rule :=
  if kind = "ImportDeclaration" then some RuntimeImport.rule
  else if kind = "FunctionDeclaration" then some RenderFunction.rule
  else none

/-- The look-ups find the built-in rules under the types of their own, and no other rules. -/
def OnlyBuiltins (registry : Registry) : Prop :=
  ∀ kind, (registry.find kind).1 = builtin? kind

variable {registry : Registry}

theorem find_find (kind kind' : String) :
    ((registry.find kind).2.find kind').1 = (registry.find kind').1 := by
  by_cases h : registry.loaded
  · simp [find, h]
  · simp [find, h, load]

theorem OnlyBuiltins.find_snd (h : registry.OnlyBuiltins) (kind : String) :
    (registry.find kind).2.OnlyBuiltins :=
  fun kind' => (find_find kind kind').trans (h kind')

theorem onlyBuiltins_initial : initial.OnlyBuiltins := by
  intro kind
  by_cases hi : kind = "ImportDeclaration"
  · subst hi; rfl
  · by_cases hf : kind = "FunctionDeclaration"
    · subst hf; rfl
    · simp [find, initial, load, insertNew, insert, lookup, builtin?, hi, hf, Ne.symm hi,
        Ne.symm hf]

end Registry

/-! ### The reply to a node -/

/-- What the built-in rules make of a node that is no program. -/
def handled (v : Json) (ctx : Context) : RuleReply :=
  if v.isKind "ImportDeclaration" then RuntimeImport.apply v ctx
  else if v.isKind "FunctionDeclaration" then RenderFunction.apply v ctx
  else ⟨v, ctx, .ok (some .skip)⟩

variable {v : Json}

/-- **The reply to a node** asks to take out just what the resolution takes out, which it leaves as
it is, and has every other node as it is resolved. -/
theorem handled_eq (hv : v.isNode = true) (ctx : Context) :
    (handled v ctx).outcome = .ok (some
        (if (Program.resolvedStatement? ctx.config v).isSome then .skip else .remove)) ∧
      (handled v ctx).node = (Program.resolvedStatement? ctx.config v).getD v ∧
      (handled v ctx).context.config = ctx.config := by
  by_cases hi : v.isKind "ImportDeclaration" = true
  · obtain ⟨hout, hnode, hconfig⟩ := Program.runtimeImport_apply hv ctx
    rw [handled, if_pos hi, Program.resolvedStatement?_of_isKind_importDeclaration hi]
    exact ⟨hout, hnode, hconfig⟩
  · by_cases hf : v.isKind "FunctionDeclaration" = true
    · rw [handled, if_neg hi, if_pos hf]
      exact Program.renderFunction_apply hf ctx
    · rw [handled, if_neg hi, if_neg hf, Program.resolvedStatement?_of_other hi hf]
      exact ⟨rfl, rfl, rfl⟩

/-- A node that the resolution leaves as it is moves no counter and is no edit. -/
theorem quiet_handled (hv : v.isNode = true) (ctx : Context)
    (hself : Program.resolvedStatement? ctx.config v = some v) :
    ctx.Quiet (handled v ctx).context := by
  have hnode : (handled v ctx).node = v := by rw [(handled_eq hv ctx).2.1, hself, Option.getD_some]
  unfold handled at hnode ⊢
  split_ifs at hnode ⊢ with hi hf
  · exact Program.quiet_runtimeImport hv ctx hnode
  · exact Program.quiet_renderFunction hf ctx hself
  · exact .refl ctx

/-! ### Dispatch -/

theorem dispatch_program (h : v.isKind "Program" = true) (s : RuleState) :
    dispatch v s = { node := v, edits := [], state := s, outcome := .ok .descend } := by
  rw [isKind_iff] at h
  simp only [dispatch, h]

/-- A node that is no program gets the reply of the built-in rules. -/
theorem dispatch_of_kind {kind : String} (hk : v.kind? = some kind) (hne : kind ≠ "Program")
    {s : RuleState} (hs : s.registry.OnlyBuiltins) : dispatch v s =
      { node := (handled v s.context).node, edits := []
        state := ⟨(handled v s.context).context, (s.registry.find kind).2⟩
        outcome := (handled v s.context).outcome.map (·.getD .descend) } := by
  have hrule := hs kind
  unfold Registry.builtin? at hrule
  split_ifs at hrule with hi hf
  · subst hi
    simp [dispatch, handled, hk, isKind, hrule, RuntimeImport.rule]
  · subst hf
    simp [dispatch, handled, hk, isKind, hrule, RenderFunction.rule]
  · simp [dispatch, handled, hk, isKind, hrule, hi, hf, Except.map]

theorem dispatch_eq (hv : v.isNode = true) (hp : ¬ v.isKind "Program" = true) {s : RuleState}
    (hs : s.registry.OnlyBuiltins) :
    ∃ registry : Registry, registry.OnlyBuiltins ∧ dispatch v s =
      { node := (handled v s.context).node, edits := []
        state := ⟨(handled v s.context).context, registry⟩
        outcome := (handled v s.context).outcome.map (·.getD .descend) } := by
  obtain ⟨kind, hk⟩ := Option.isSome_iff_exists.1 hv
  have hne : kind ≠ "Program" := fun h => hp (isKind_iff.2 (h ▸ hk))
  exact ⟨(s.registry.find kind).2, hs.find_snd kind, dispatch_of_kind hk hne hs⟩

theorem dispatch_of_not_isNode (hv : ¬ v.isNode = true) (s : RuleState) :
    dispatch v s = { node := v, edits := [], state := s, outcome := .ok .skip } := by
  simp only [isNode, Option.not_isSome_iff_eq_none] at hv
  simp only [dispatch, hv]

/-- Under the built-in rules nothing but a program is entered. -/
theorem dispatch_cases (v : Json) {s : RuleState} (hs : s.registry.OnlyBuiltins) :
    (dispatch v s).edits = [] ∧ (dispatch v s).state.registry.OnlyBuiltins ∧
      ((dispatch v s).outcome = .ok .descend → (dispatch v s).node = v) := by
  by_cases hv : v.isNode = true
  · by_cases hp : v.isKind "Program" = true
    · rw [dispatch_program hp]
      exact ⟨rfl, hs, fun _ => rfl⟩
    · obtain ⟨registry, hregistry, heq⟩ := dispatch_eq hv hp hs
      rw [heq, (handled_eq hv s.context).1]
      refine ⟨rfl, hregistry, fun hout => ?_⟩
      -- the action is to pass by or to take out
      split_ifs at hout <;> cases hout
  · rw [dispatch_of_not_isNode hv]
    exact ⟨rfl, hs, fun _ => rfl⟩

@[simp] theorem enter_ruleVisitor (registry : Registry) (site : Site) (v : Json) (s : RuleState) :
    (ruleVisitor registry).enter site v s = dispatch v s := rfl

@[simp] theorem leave_ruleVisitor (registry : Registry) (site : Site) (v : Json) (s : RuleState) :
    (ruleVisitor registry).leave site v s = s := rfl

/-- Under the built-in rules the walk of a program is a tour. -/
theorem isLocal_ruleVisitor (registry : Registry) :
    (ruleVisitor registry).IsLocal (·.registry.OnlyBuiltins) where
  edits_eq _ v _ hs := (dispatch_cases v hs).1
  node_eq _ v _ hs := (dispatch_cases v hs).2.2
  enter _ v _ hs := (dispatch_cases v hs).2.1
  leave _ _ _ hs := hs

end ComponentLookup
