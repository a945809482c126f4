import ComponentLookup.Proofs.Program.Idempotence

/-!
# Where the resolver is bound

The rule for functions calls the resolver whatever is imported, and the rule for imports binds it
whatever is called.  `Resolver.binds_resolver_iff` says when a resolved program has an import that
binds the resolver: it had one before, or it had an import of the runtime with a list of specifiers.
Without either, no import is added, and the calls of the resolver stay unbound
(`not_every_call_bound`).
-/

namespace ComponentLookup

open Json

namespace Program

variable {config : Config} {v w : Json} {fields : Fields} {items : List Json}

/-- The values that stand directly in a program, alone or in lists. -/
def children : Json → List Json
  | .obj fields => fields.flatMap fun field => if field.1 = "type" then [] else standing field.2
  | _ => []

/-- The import binds the local name of the resolver. -/
def importsResolver (config : Config) (v : Json) : Bool :=
  v.isKind "ImportDeclaration" && ((v.get? "specifiers").bind items?).any
    (List.any · (Node.bindsLocal config.resolverLocalName))

/-- The import can bind the resolver: it does so already, or it is an import of the runtime that
lists what it binds. -/
def canImportResolver (config : Config) (v : Json) : Bool :=
  importsResolver config v ||
    (v.isKind "ImportDeclaration" && namesRuntime config v &&
      ((v.get? "specifiers").bind items?).isSome)

/-! ### What stands directly in a resolved program -/

theorem mem_standing_resolvedValue (hw : w.isNode = true) :
    w ∈ standing (resolvedValue config v) ↔ ∃ u ∈ standing v, resolved? config u = some w := by
  cases v with
  | arr items =>
    rw [resolvedValue_arr, resolvedItems_eq_filterMap]
    exact List.mem_filterMap
  | obj fields =>
    rw [resolvedValue_obj, standing_obj]
    cases hr : resolved? config (.obj fields) with
    | none =>
      -- the field holds null then, which is no node
      have hnull : w ≠ .null := by rintro rfl; cases hw
      simp [standing, hr, hnull]
    | some u =>
      obtain ⟨fields', rfl⟩ := exists_fields_of_resolved? hr
      simp [standing, hr, eq_comm]
  | _ =>
    simp only [standing, resolvedValue, resolved?, Option.getD_some, List.mem_singleton,
      exists_eq_left, Option.some.injEq]
    exact eq_comm

theorem mem_children_resolved (hp : v.isKind "Program" = true) (hw : w.isNode = true) :
    w ∈ children (resolved config v) ↔ ∃ u ∈ children v, resolved? config u = some w := by
  obtain ⟨fields, rfl⟩ := exists_fields_of_isNode (isNode_of_isKind hp)
  rw [resolved, resolved?_program hp, Option.getD_some, children, children]
  clear hp
  induction fields with
  | nil => simp [resolvedFields]
  | cons field rest ih =>
    obtain ⟨key, u⟩ := field
    rw [resolvedFields_cons, List.flatMap_cons, List.flatMap_cons, List.mem_append, ih]
    by_cases hkey : key = "type"
    · simp [hkey]
    · simp only [if_neg hkey, mem_standing_resolvedValue hw, List.mem_append]
      constructor
      · rintro (⟨x, hx, hr⟩ | ⟨x, hx, hr⟩)
        · exact ⟨x, .inl hx, hr⟩
        · exact ⟨x, .inr hx, hr⟩
      · rintro ⟨x, hx | hx, hr⟩
        · exact .inl ⟨x, hx, hr⟩
        · exact .inr ⟨x, hx, hr⟩

/-! ### Imports -/

theorem importsResolver_iff : importsResolver config v = true ↔
    v.isKind "ImportDeclaration" = true ∧ ∃ items, v.get? "specifiers" = some (.arr items) ∧
      items.any (Node.bindsLocal config.resolverLocalName) = true := by
  simp only [importsResolver, Bool.and_eq_true, Option.any_eq_true, Option.bind_eq_some_iff,
    items?_eq_some_iff]
  constructor
  · rintro ⟨hk, items, ⟨_, hs, rfl⟩, hb⟩
    exact ⟨hk, items, hs, hb⟩
  · rintro ⟨hk, items, hs, hb⟩
    exact ⟨hk, items, ⟨_, hs, rfl⟩, hb⟩

theorem canImportResolver_iff : canImportResolver config v = true ↔
    v.isKind "ImportDeclaration" = true ∧ ∃ items, v.get? "specifiers" = some (.arr items) ∧
      (items.any (Node.bindsLocal config.resolverLocalName) = true ∨
        namesRuntime config v = true) := by
  simp only [canImportResolver, Bool.or_eq_true, importsResolver_iff, Bool.and_eq_true,
    Option.isSome_iff_exists, Option.bind_eq_some_iff, items?_eq_some_iff]
  constructor
  · rintro (⟨hk, items, hs, hb⟩ | ⟨⟨hk, hn⟩, items, _, hs, rfl⟩)
    · exact ⟨hk, items, hs, .inl hb⟩
    · exact ⟨hk, items, hs, .inr hn⟩
  · rintro ⟨hk, items, hs, hb | hn⟩
    · exact .inl ⟨hk, items, hs, hb⟩
    · exact .inr ⟨⟨hk, hn⟩, items, _, hs, rfl⟩

variable (config) in
/-- Behind the specifiers of an import of the runtime the resolver is bound. -/
theorem exists_withResolver (items : List Json) : ∃ items',
    withResolver config (.arr items) = .arr items' ∧
      items'.any (Node.bindsLocal config.resolverLocalName) = true := by
  rw [withResolver]
  split_ifs with hb
  · exact ⟨items, rfl, hb⟩
  · refine ⟨_, rfl, ?_⟩
    rw [List.any_append]
    simp [bindsLocal_importSpecifier]

variable (config) in
/-- Imports are not taken out. -/
theorem exists_resolved?_of_isKind_importDeclaration
    (hk : v.isKind "ImportDeclaration" = true) : ∃ w, resolved? config v = some w := by
  have hp : ¬ v.isKind "Program" = true := not_isKind_of_isKind hk (by decide)
  exact ⟨_, (resolved?_of_not_program hp).trans (resolvedStatement?_of_isKind_importDeclaration hk)⟩

/-- **An import binds the resolver** after the resolution just if it could before. -/
theorem importsResolver_resolved? (h : resolved? config v = some w) :
    importsResolver config w = canImportResolver config v := by
  rw [Bool.eq_iff_iff, importsResolver_iff, canImportResolver_iff, isKind_resolved? h]
  refine and_congr_right fun hk => ?_
  have hp : ¬ v.isKind "Program" = true := not_isKind_of_isKind hk (by decide)
  rw [resolved?_of_not_program hp, resolvedStatement?_of_isKind_importDeclaration hk,
    Option.some.injEq] at h
  by_cases hn : namesRuntime config v = true
  · -- a list of specifiers is all that an import of the runtime needs
    rw [if_pos hn] at h
    simp only [← h, get?_update_self, Option.map_eq_some_iff, hn, or_true, and_true]
    constructor
    · rintro ⟨_, ⟨specifiers, hs, heq⟩, -⟩
      cases specifiers with
      | arr items => exact ⟨items, hs⟩
      | _ => cases heq
    · rintro ⟨items, hs⟩
      obtain ⟨items', heq, hb⟩ := exists_withResolver config items
      exact ⟨items', ⟨_, hs, heq⟩, hb⟩
  · rw [if_neg hn] at h
    subst h
    simp only [hn, or_false, Bool.false_eq_true]

end Program

/-! ### Resolutions -/

namespace Resolver

variable {r : Resolver} {registry : Registry} {tree : Json}

/-- **A resolved program binds the resolver** if and only if one of the imports that stood directly
in the program could. -/
theorem binds_resolver_iff (h : registry.OnlyBuiltins) (hp : tree.isKind "Program" = true)
    (hd : tree.DistinctKeys) :
    (∃ v ∈ Program.children (r.resolve registry tree).tree,
      Program.importsResolver r.config v = true) ↔
      ∃ v ∈ Program.children tree, Program.canImportResolver r.config v = true := by
  rw [r.tree_resolve h hp hd]
  constructor
  · rintro ⟨w, hw, himports⟩
    have hnode := isNode_of_isKind (Program.importsResolver_iff.1 himports).1
    obtain ⟨v, hv, hr⟩ := (Program.mem_children_resolved hp hnode).1 hw
    exact ⟨v, hv, Program.importsResolver_resolved? hr ▸ himports⟩
  · rintro ⟨v, hv, hcan⟩
    obtain ⟨w, hr⟩ := Program.exists_resolved?_of_isKind_importDeclaration r.config
      (Program.canImportResolver_iff.1 hcan).1
    have himports := (Program.importsResolver_resolved? hr).trans hcan
    have hnode := isNode_of_isKind (Program.importsResolver_iff.1 himports).1
    exact ⟨w, (Program.mem_children_resolved hp hnode).2 ⟨v, hv, hr⟩, himports⟩

end Resolver

/-! ### Two samples -/

namespace Sample

/-- A program whose runtime is imported under the name that it has during development. -/
def developmentRuntime : Json :=
  program [importFrom "vue/jsx-dev-runtime" [], entry [assertion "Foo"], helper]

end Sample

open Sample in
theorem binds_resolver_adjacentHelpers :
    adjacentHelpers.isKind "Program" = true ∧ adjacentHelpers.DistinctKeys ∧
      ∃ v ∈ Program.children ((Resolver.new .default none).resolve .initial adjacentHelpers).tree,
        Program.importsResolver .default v = true := by
  have hp : adjacentHelpers.isKind "Program" = true := by decide
  have hd : adjacentHelpers.DistinctKeys := by decide
  have hcan : ∃ v ∈ Program.children adjacentHelpers,
      Program.canImportResolver .default v = true := by decide
  exact ⟨hp, hd, (Resolver.binds_resolver_iff (r := .new .default none)
    Registry.onlyBuiltins_initial hp hd).2 hcan⟩

/-- An assertion may be turned into a call of the resolver that nothing binds. -/
theorem not_every_call_bound :
    ¬ ∀ (r : Resolver) (registry : Registry) (tree : Json), registry.OnlyBuiltins →
      r.config.IsValid → tree.isKind "Program" = true → tree.DistinctKeys →
      (∃ ctx, (r.resolve registry tree).resolver.last = some ctx ∧
        1 ≤ ctx.stats.get "checks_rewritten") →
      ∃ v ∈ Program.children (r.resolve registry tree).tree,
        Program.importsResolver r.config v = true := by
  intro hclaim
  have hbound := hclaim (.new .default none) .initial Sample.developmentRuntime
    Registry.onlyBuiltins_initial (by unfold Config.IsValid; decide) (by decide) (by decide)
    ⟨_, rfl, by decide⟩
  revert hbound
  decide

end ComponentLookup
