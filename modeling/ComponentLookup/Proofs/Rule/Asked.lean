import ComponentLookup.Proofs.Rule.Dispatch

/-!
# Which rule is asked

Whatever rules are registered, the dispatch of a node asks the rule for its type and no other
(`Registry.ruleFor?`), or none at all: a program is entered without a rule, and a node of a type
without a rule is passed by.

* `dispatch_of_ruleFor?_eq_some`, `dispatch_of_ruleFor?_eq_none` : the reply in the two cases.
* `ruleFor?_dispatch` : which rule is asked does not change during a walk.
-/

namespace ComponentLookup

open Json

namespace Registry

/-- The rule that a node is handed to, if it is no program and there is a rule for its type. -/
def ruleFor? (registry : Registry) (v : Json) : Option Rule :=
  v.kind?.bind fun kind => if kind = "Program" then none else (registry.find kind).1

variable {registry : Registry} {v : Json} {rule : Rule}

theorem ruleFor?_eq_some_iff : registry.ruleFor? v = some rule ↔
    ∃ kind, v.kind? = some kind ∧ kind ≠ "Program" ∧ (registry.find kind).1 = some rule := by
  simp only [ruleFor?, Option.bind_eq_some_iff]
  refine exists_congr fun kind => and_congr_right fun _ => ?_
  split_ifs with h <;> simp [h]

theorem isNode_of_ruleFor? (h : registry.ruleFor? v = some rule) : v.isNode = true := by
  obtain ⟨kind, hkind, -⟩ := ruleFor?_eq_some_iff.1 h
  rw [isNode, hkind]
  rfl

theorem not_isKind_program_of_ruleFor? (h : registry.ruleFor? v = some rule) :
    ¬ v.isKind "Program" = true := by
  obtain ⟨kind, hkind, hne, -⟩ := ruleFor?_eq_some_iff.1 h
  rw [isKind_iff, hkind, Option.some.injEq]
  exact hne

theorem ruleFor?_program (h : v.isKind "Program" = true) : registry.ruleFor? v = none := by
  rw [ruleFor?, isKind_iff.1 h, Option.bind_some, if_pos rfl]

/-- A look-up does not change which rule is asked. -/
theorem ruleFor?_find (registry : Registry) (kind : String) :
    (registry.find kind).2.ruleFor? = registry.ruleFor? := by
  funext v
  simp only [ruleFor?, find_find]

end Registry

variable {v : Json} {s : RuleState} {rule : Rule}

/-- A node whose type has a rule gets the reply of the rule. -/
theorem dispatch_of_ruleFor?_eq_some (h : s.registry.ruleFor? v = some rule) :
    ∃ registry : Registry, registry.ruleFor? = s.registry.ruleFor? ∧ dispatch v s =
      { node := (rule.apply v s.context).node, edits := []
        state := ⟨(rule.apply v s.context).context, registry⟩
        outcome := (rule.apply v s.context).outcome.map (·.getD .descend) } := by
  obtain ⟨kind, hkind, hne, hrule⟩ := Registry.ruleFor?_eq_some_iff.1 h
  refine ⟨(s.registry.find kind).2, Registry.ruleFor?_find _ kind, ?_⟩
  simp only [dispatch, hkind, hrule]

/-- No rule is asked for any other value. -/
theorem dispatch_of_ruleFor?_eq_none (h : s.registry.ruleFor? v = none) :
    ∃ registry : Registry, registry.ruleFor? = s.registry.ruleFor? ∧ dispatch v s =
      { node := v, edits := [], state := ⟨s.context, registry⟩
        outcome := .ok (if v.isKind "Program" then .descend else .skip) } := by
  by_cases hp : v.isKind "Program" = true
  · exact ⟨s.registry, rfl, by rw [dispatch_program hp, if_pos hp]⟩
  · rw [if_neg hp]
    cases hkind : v.kind? with
    | none => exact ⟨s.registry, rfl, by simp only [dispatch, hkind]⟩
    | some kind =>
      have hne : kind ≠ "Program" := fun heq => hp (isKind_iff.2 (heq ▸ hkind))
      have hrule : (s.registry.find kind).1 = none := by
        rwa [Registry.ruleFor?, hkind, Option.bind_some, if_neg hne] at h
      exact ⟨(s.registry.find kind).2, Registry.ruleFor?_find _ kind,
        by simp only [dispatch, hkind, hrule]⟩

/-- A dispatch does not change which rule is asked. -/
theorem ruleFor?_dispatch (v : Json) (s : RuleState) :
    (dispatch v s).state.registry.ruleFor? = s.registry.ruleFor? := by
  cases hrule : s.registry.ruleFor? v with
  | none =>
    obtain ⟨registry, hsame, heq⟩ := dispatch_of_ruleFor?_eq_none hrule
    rw [heq, hsame]
  | some rule =>
    obtain ⟨registry, hsame, heq⟩ := dispatch_of_ruleFor?_eq_some hrule
    rw [heq, hsame]

end ComponentLookup
