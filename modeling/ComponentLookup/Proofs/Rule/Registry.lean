import ComponentLookup.Rule.Registry
import Mathlib.Data.Finset.Card

/-!
# What is found in a registry

The rules of a registry by node type, after a rule was put in and after the built-in rules have
joined.

* `Registry.lookup_insert`, `Registry.lookup_insertNew` : a rule that is put into a list replaces
  the one for its node type, or gives way to it.
* `Registry.nodup_insert`, `Registry.nodup_insertNew` : there is one rule for each node type.
* `Registry.lookup_load` : joining, the built-in rules take the node types that they announce, as
  far as these are free (`Registry.joining?`).
* `Registry.find_fst` : a look-up finds the same whether or not they had joined before.
* `Registry.size_eq_card` : the size is the number of node types for which a rule is found.
-/

namespace ComponentLookup
namespace Registry

variable {kind kind' : String} {rule : Rule} {rules : List (String × Rule)}

/-! ### Lists of rules -/

theorem lookup_insert :
    lookup kind' (insert kind rule rules) =
      if kind' = kind then some rule else lookup kind' rules := by
  fun_induction insert kind rule rules with
  | case1 => simp [lookup, eq_comm]
  | case2 r rest => by_cases h : kind = kind' <;> simp [lookup, h, eq_comm]
  | case3 k r rest hk ih =>
    by_cases h : k = kind'
    · subst h
      simp [lookup, hk]
    · simp [lookup, h, ih]

/-- A rule that is put in where its node type may be taken is found only behind the others. -/
theorem lookup_insertNew :
    lookup kind' (insertNew kind rule rules) =
      (lookup kind' rules).or (if kind' = kind then some rule else none) := by
  unfold insertNew
  split
  case isTrue h =>
    by_cases heq : kind' = kind
    · obtain ⟨r, hr⟩ := Option.isSome_iff_exists.1 h
      simp [heq, hr]
    · simp [heq]
  case isFalse h =>
    rw [lookup_insert]
    by_cases heq : kind' = kind
    · rw [Option.not_isSome_iff_eq_none] at h
      simp [heq, h]
    · simp [heq]

theorem mem_kinds_iff : kind ∈ rules.map Prod.fst ↔ (lookup kind rules).isSome = true := by
  fun_induction lookup kind rules with
  | case1 => simp
  | case2 r rest => simp
  | case3 k r rest hk ih => simp [ih, Ne.symm hk]

theorem nodup_insert (h : (rules.map Prod.fst).Nodup) :
    ((insert kind rule rules).map Prod.fst).Nodup := by
  fun_induction insert kind rule rules with
  | case1 => simp
  | case2 r rest => simpa using h
  | case3 k r rest hk ih =>
    simp only [List.map_cons, List.nodup_cons, mem_kinds_iff, lookup_insert, if_neg hk] at h ⊢
    exact ⟨h.1, ih h.2⟩

theorem nodup_insertNew (h : (rules.map Prod.fst).Nodup) :
    ((insertNew kind rule rules).map Prod.fst).Nodup := by
  unfold insertNew
  split
  · exact h
  · exact nodup_insert h

/-! ### Registries -/

variable (registry : Registry)

/-- The built-in rule that joins under a node type, if the type is free. -/
def joining? (kind : String) : Option Rule :=
  (if kind = registry.importType then some RuntimeImport.rule else none).or
    (if kind = registry.functionType then some RenderFunction.rule else none)

theorem lookup_load (kind : String) :
    lookup kind registry.load.rules = (lookup kind registry.rules).or (registry.joining? kind) := by
  simp only [load, lookup_insertNew, joining?, BuiltinRule.rule, Option.or_assoc]

/-- Once they have joined, the built-in rules have nothing to add. -/
theorem load_load : registry.load.load = registry.load := by
  -- a type that is announced is not free any more
  have htaken : ∀ {kind rule}, (registry.joining? kind).isSome = true →
      insertNew kind rule registry.load.rules = registry.load.rules := fun {kind rule} h => by
    refine if_pos ?_
    rw [lookup_load, Option.isSome_or, h, Bool.or_true]
  have himport : (registry.joining? registry.importType).isSome = true := by simp [joining?]
  have hfunction : (registry.joining? registry.functionType).isSome = true := by simp [joining?]
  calc registry.load.load
      = { registry.load with
          rules := insertNew registry.functionType BuiltinRule.renderFunction.rule
            (insertNew registry.importType BuiltinRule.runtimeImport.rule registry.load.rules) } :=
        rfl
    _ = registry.load := by rw [htaken himport, htaken hfunction]

theorem find_fst (kind : String) :
    (registry.find kind).1 = (lookup kind registry.rules).or
      (if registry.loaded then none else registry.joining? kind) := by
  by_cases h : registry.loaded = true
  · simp [find, h]
  · simp [find, h, lookup_load]

/-- A look-up has no effect, or it lets the built-in rules join. -/
theorem find_snd (kind : String) :
    (registry.find kind).2 = if registry.loaded then registry else registry.load := rfl

theorem size_eq_card (h : (registry.rules.map Prod.fst).Nodup) {kinds : Finset String}
    (hkinds : ∀ kind, kind ∈ kinds ↔ (lookup kind registry.rules).isSome = true) :
    registry.size = kinds.card := by
  have heq : (registry.rules.map Prod.fst).toFinset = kinds := by
    ext kind
    rw [List.mem_toFinset, mem_kinds_iff, hkinds]
  rw [← heq, List.toFinset_card_of_nodup h, List.length_map, size]

end Registry
end ComponentLookup
