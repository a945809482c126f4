import ComponentLookup.Proofs.Rule.Dispatch
import ComponentLookup.Proofs.Rule.Registry
import ComponentLookup.Proofs.Walk.Invariant
import Mathlib.Data.List.DropRight
import Mathlib.Data.List.TFAE
import Mathlib.Tactic.TFAE

/-!
# Histories of a registry

Everything that happens in a program shares one registry: rules are registered, looked up and
forgotten, and values are resolved in between (`Registry.Operation`).  What an operation answers
depends on the operations before it (`Registry.run`, `Registry.answers`).

* `Resolver.resolve_registry` : a resolution lets the built-in rules join, or has no effect on the
  registry.
* `Registry.Reflects` : the invariant that ties a registry to its history, as long as no built-in
  rule is registered by hand.  `Registry.Reflects.perform` is one operation, and
  `Registry.reflects_run` is the history.
* `Registry.answers_exact` : **it makes no difference when the built-in rules join.**  A look-up
  finds the rule that was registered last, or else the built-in one.
* `Registry.announces_run` : the node types that the built-in rules announce after a history.
* `Registry.tfae_clear_run` : **a cleared registry is as good as new** just when each built-in rule
  announces the node type that it announced at the start.
-/

namespace ComponentLookup

open Json

/-! ### Resolutions -/

/-- A dispatch lets the built-in rules join, or has no effect on the registry. -/
theorem dispatch_registry (v : Json) (s : RuleState) :
    (dispatch v s).state.registry = s.registry ∨
      (dispatch v s).state.registry = s.registry.load := by
  have hfind : ∀ kind, (s.registry.find kind).2 = s.registry ∨
      (s.registry.find kind).2 = s.registry.load := fun kind => by
    rw [Registry.find_snd]
    split
    · exact .inl rfl
    · exact .inr rfl
  unfold dispatch
  split
  · exact .inl rfl
  · rename_i kind _ _
    dsimp only
    split <;> exact hfind kind
  · exact .inl rfl

/-- A resolution lets the built-in rules join, or has no effect on the registry. -/
theorem Resolver.resolve_registry (r : Resolver) (registry : Registry) (v : Json) :
    (r.resolve registry v).registry = registry ∨
      (r.resolve registry v).registry = registry.load := by
  have hkeeps : (ruleVisitor registry).Keeps
      fun s => s.registry = registry ∨ s.registry = registry.load := by
    refine ⟨fun _ w s hs => ?_, fun _ _ _ hs => hs⟩
    have hdispatch := dispatch_registry w s
    -- once the rules have joined, a second time changes nothing
    rcases hs with hs | hs
    · simpa only [enter_ruleVisitor, hs] using hdispatch
    · simp only [hs, Registry.load_load, or_self] at hdispatch
      exact .inr hdispatch
  unfold Resolver.resolve
  split
  · dsimp only [applyRules]
    split <;> exact hkeeps.walk v (.inl rfl)
  · exact .inl rfl

namespace Registry

/-! ### Operations -/

/-- What is done with a registry. -/
inductive Operation where
  | register (kind : String) (rule : Rule)
  | registerBuiltin (kind : String) (builtin : BuiltinRule)
  | find (kind : String)
  | load
  | clear
  | resolve (resolver : Resolver) (tree : Json)

/-- What is answered. -/
inductive Answer where
  | done
  | rule (found : Option Rule)
  | size (kinds : Nat)
  | resolved (tree : Json) (resolver : Resolver) (failure : Option ShapeError)

namespace Operation

/-- The answer to an operation, and the registry after it. -/
def perform (registry : Registry) : Operation → Answer × Registry
  | .register kind rule => (.done, registry.register kind rule)
  | .registerBuiltin kind builtin => (.done, registry.registerBuiltin kind builtin)
  | .find kind => (.rule (registry.find kind).1, (registry.find kind).2)
  | .load => (.size registry.load.size, registry.load)
  | .clear => (.done, registry.clear)
  | .resolve resolver tree =>
    let resolution := resolver.resolve registry tree
    (.resolved resolution.tree resolution.resolver resolution.failure, resolution.registry)

/-- The rule that is registered, with its node type. -/
def registration? : Operation → Option (String × Rule)
  | .register kind rule => some (kind, rule)
  | .registerBuiltin kind builtin => some (kind, builtin.rule)
  | _ => none

/-- The node type that a built-in rule announces from then on. -/
def announcement? (builtin : BuiltinRule) : Operation → Option String
  | .registerBuiltin kind b => if b = builtin then some kind else none
  | _ => none

/-- The operation leaves the built-in rules to join by themselves. -/
def LeavesBuiltins (op : Operation) : Prop := ∀ kind builtin, op ≠ .registerBuiltin kind builtin

/-- The operation forgets all rules. -/
def isClear : Operation → Bool
  | .clear => true
  | _ => false

end Operation

/-- The registry after a number of operations. -/
def run (ops : List Operation) (registry : Registry) : Registry :=
  ops.foldl (fun registry op => (op.perform registry).2) registry

/-- The answers to a number of operations. -/
def answers : List Operation → Registry → List Answer
  | [], _ => []
  | op :: ops, registry => (op.perform registry).1 :: answers ops (op.perform registry).2

/-- The rules that were registered since the registry was last cleared, in order. -/
def registrations (ops : List Operation) : List (String × Rule) :=
  (ops.rtakeWhile (!·.isClear)).filterMap Operation.registration?

/-- The rule that was last registered for a node type since the registry was last cleared. -/
def latest? (kind : String) (ops : List Operation) : Option Rule :=
  (registrations ops).reverse.lookup kind

/-- The node types for which rules were registered since the registry was last cleared. -/
def registeredKinds (ops : List Operation) : Finset String :=
  ((registrations ops).map Prod.fst).toFinset

variable {registry : Registry} {ops : List Operation} {op : Operation} {kind : String}

theorem run_concat (ops : List Operation) (op : Operation) (registry : Registry) :
    run (ops ++ [op]) registry = (op.perform (run ops registry)).2 := by
  simp [run]

theorem answers_getElem? (earlier : List Operation) (op : Operation) (later : List Operation)
    (registry : Registry) :
    (answers (earlier ++ op :: later) registry)[earlier.length]? =
      some (op.perform (run earlier registry)).1 := by
  induction earlier generalizing registry with
  | nil => rfl
  | cons first rest ih => exact ih _

theorem registrations_concat (h : op.isClear = false) :
    registrations (ops ++ [op]) = registrations ops ++ op.registration?.toList := by
  rw [registrations, List.rtakeWhile_concat_pos _ _ _ (by simp [h]), List.filterMap_append]
  cases hop : op.registration? <;> simp [registrations, hop]

theorem registrations_clear (ops : List Operation) : registrations (ops ++ [.clear]) = [] := by
  rw [registrations, List.rtakeWhile_concat_neg _ _ _ (by simp [Operation.isClear])]
  rfl

theorem latest?_concat (h : op.isClear = false) :
    latest? kind (ops ++ [op]) = (op.registration?.toList.lookup kind).or (latest? kind ops) := by
  rw [latest?, registrations_concat h, List.reverse_append, List.lookup_append]
  cases op.registration? <;> rfl

theorem isSome_latest?_iff : (latest? kind ops).isSome = true ↔ kind ∈ registeredKinds ops := by
  simp only [latest?, registeredKinds, List.lookup_isSome_iff, List.mem_reverse, beq_iff_eq,
    List.mem_toFinset, List.mem_map, @eq_comm _ kind]

/-! ### Without built-in rules registered by hand -/

/-- What a registry is like after a history. -/
structure Reflects (registry : Registry) (ops : List Operation) : Prop where
  importType_eq : registry.importType = "ImportDeclaration"
  functionType_eq : registry.functionType = "FunctionDeclaration"
  nodup : (registry.rules.map Prod.fst).Nodup
  lookup_eq : ∀ kind, lookup kind registry.rules =
    (latest? kind ops).or (if registry.loaded then builtin? kind else none)

namespace Reflects

theorem joining?_eq (h : registry.Reflects ops) (kind : String) :
    registry.joining? kind = builtin? kind := by
  rw [joining?, builtin?, h.importType_eq, h.functionType_eq]
  split <;> simp

/-- **Loading is no event**: the registry reflects the same history with the built-in rules. -/
theorem load (h : registry.Reflects ops) : registry.load.Reflects ops where
  importType_eq := h.importType_eq
  functionType_eq := h.functionType_eq
  nodup := nodup_insertNew (nodup_insertNew h.nodup)
  lookup_eq kind := by
    rw [lookup_load, h.lookup_eq, h.joining?_eq, Option.or_assoc]
    cases registry.loaded <;> simp [Registry.load]

theorem find (h : registry.Reflects ops) (kind : String) :
    (registry.find kind).1 = (latest? kind ops).or (builtin? kind) := by
  rw [find_fst, h.lookup_eq, h.joining?_eq, Option.or_assoc]
  cases registry.loaded <;> simp

theorem size_load (h : registry.Reflects ops) : registry.load.size =
    ({"ImportDeclaration", "FunctionDeclaration"} ∪ registeredKinds ops).card := by
  refine size_eq_card _ h.load.nodup fun kind => ?_
  have hbuiltin : (builtin? kind).isSome = true ↔
      kind = "ImportDeclaration" ∨ kind = "FunctionDeclaration" := by
    unfold builtin?
    split_ifs with hi hf <;> simp [*]
  have hloaded : registry.load.loaded = true := rfl
  rw [h.load.lookup_eq, if_pos hloaded, Option.isSome_or, Bool.or_eq_true, isSome_latest?_iff,
    hbuiltin, Finset.mem_union, Finset.mem_insert, Finset.mem_singleton, or_comm]

/-- What neither registers a rule nor forgets one is no event. -/
theorem concat (h : registry.Reflects ops) (hclear : op.isClear = false)
    (hregistration : op.registration? = none) : registry.Reflects (ops ++ [op]) where
  __ := h
  lookup_eq kind := by
    rw [h.lookup_eq, latest?_concat hclear, hregistration]
    rfl

theorem register (h : registry.Reflects ops) (kind : String) (rule : Rule) :
    (registry.register kind rule).Reflects (ops ++ [.register kind rule]) where
  importType_eq := h.importType_eq
  functionType_eq := h.functionType_eq
  nodup := nodup_insert h.nodup
  lookup_eq kind' := by
    have hlookup : lookup kind' (registry.register kind rule).rules =
        if kind' = kind then some rule else lookup kind' registry.rules := lookup_insert
    have hlatest : latest? kind' (ops ++ [.register kind rule]) =
        if kind' = kind then some rule else latest? kind' ops := by
      rw [latest?_concat rfl]
      by_cases heq : kind' = kind
      · simp [Operation.registration?, heq]
      · simp [Operation.registration?, List.lookup_cons, beq_false_of_ne heq, heq]
    rw [hlookup, hlatest, h.lookup_eq]
    split
    · rfl
    · rfl

theorem clear (h : registry.Reflects ops) : registry.clear.Reflects (ops ++ [.clear]) where
  importType_eq := h.importType_eq
  functionType_eq := h.functionType_eq
  nodup := List.nodup_nil
  lookup_eq kind := by
    rw [latest?, registrations_clear]
    rfl

/-- **One operation.** -/
theorem perform (h : registry.Reflects ops) (hop : op.LeavesBuiltins) :
    (op.perform registry).2.Reflects (ops ++ [op]) := by
  cases op with
  | register kind rule => exact h.register kind rule
  | registerBuiltin kind builtin => exact absurd rfl (hop kind builtin)
  | find kind =>
    have hfind : (registry.find kind).2.Reflects ops := by
      rw [find_snd]
      split
      · exact h
      · exact h.load
    exact hfind.concat rfl rfl
  | load => exact h.load.concat rfl rfl
  | clear => exact h.clear
  | resolve resolver tree =>
    have hresolve : (resolver.resolve registry tree).registry.Reflects ops := by
      rcases resolver.resolve_registry registry tree with heq | heq
      · rw [heq]
        exact h
      · rw [heq]
        exact h.load
    exact hresolve.concat rfl rfl

end Reflects

theorem reflects_initial : initial.Reflects [] where
  importType_eq := rfl
  functionType_eq := rfl
  nodup := List.nodup_nil
  lookup_eq _ := rfl

/-- The registry after a history reflects it. -/
theorem reflects_run (h : ∀ op ∈ ops, op.LeavesBuiltins) : (run ops initial).Reflects ops := by
  -- from the end, as the invariant speaks of all operations so far
  induction ops using List.reverseRecOn with
  | nil => exact reflects_initial
  | append_singleton ops op ih =>
    rw [run_concat]
    exact (ih fun op hop => h op (List.mem_append_left _ hop)).perform
      (h op (List.mem_append_right _ List.mem_cons_self))

/-- **It makes no difference when the built-in rules join.**  At every point of a history, a look-up
finds the rule that was last registered since the registry was last cleared, or else the built-in
rule; and loading tells the number of node types for which there is one or the other. -/
theorem answers_exact (earlier later : List Operation)
    (h : ∀ op ∈ earlier, op.LeavesBuiltins) :
    (∀ kind, (answers (earlier ++ .find kind :: later) initial)[earlier.length]? =
      some (.rule ((latest? kind earlier).or (builtin? kind)))) ∧
    (answers (earlier ++ .load :: later) initial)[earlier.length]? =
      some (.size ({"ImportDeclaration", "FunctionDeclaration"} ∪ registeredKinds earlier).card) := by
  have hreflects := reflects_run h
  refine ⟨fun kind => ?_, ?_⟩
  · rw [answers_getElem?, ← hreflects.find]
    rfl
  · rw [answers_getElem?, ← hreflects.size_load]
    rfl

/-- A rule that passes by all nodes. -/
def passingBy : Rule :=
  { name := "passing_by", apply := fun v ctx => ⟨v, ctx, .ok (some .skip)⟩, growth := 0 }

/-- A rule for imports is registered before the registry is cleared, and one for functions after
it, when a resolution has let the built-in rules join. -/
theorem answers_passingBy :
    let earlier : List Operation := [.register "ImportDeclaration" passingBy, .clear,
      .resolve (.new .default none) (.obj [("type", .str "IfStatement")]),
      .register "FunctionDeclaration" passingBy]
    (∀ op ∈ earlier, op.LeavesBuiltins) ∧
      (answers (earlier ++ [.find "ImportDeclaration"]) initial)[4]? =
        some (.rule (some RuntimeImport.rule)) ∧
      (answers (earlier ++ [.find "FunctionDeclaration"]) initial)[4]? =
        some (.rule (some passingBy)) ∧
      (answers (earlier ++ [.load]) initial)[4]? = some (.size 2) := by
  intro earlier
  have hearlier : ∀ op ∈ earlier, op.LeavesBuiltins := by
    simp [earlier, Operation.LeavesBuiltins]
  obtain ⟨hfind, hload⟩ := answers_exact earlier [] hearlier
  exact ⟨hearlier, hfind "ImportDeclaration", hfind "FunctionDeclaration", hload⟩

/-! ### What clearing leaves -/

/-- The node type that a built-in rule announces. -/
def announces (registry : Registry) : BuiltinRule → String
  | .runtimeImport => registry.importType
  | .renderFunction => registry.functionType

/-- The node type under which a built-in rule was last registered by hand. -/
def lastAnnounced? (builtin : BuiltinRule) (ops : List Operation) : Option String :=
  (ops.filterMap (Operation.announcement? builtin)).getLast?

theorem announces_load (registry : Registry) : registry.load.announces = registry.announces := by
  funext builtin
  cases builtin <;> rfl

theorem announces_registerBuiltin (registry : Registry) (kind : String)
    (builtin builtin' : BuiltinRule) : (registry.registerBuiltin kind builtin').announces builtin =
      if builtin' = builtin then kind else registry.announces builtin := by
  cases builtin <;> cases builtin' <;> rfl

/-- Nothing but its own registration changes what a built-in rule announces. -/
theorem announces_perform (registry : Registry) (op : Operation) (builtin : BuiltinRule) :
    (op.perform registry).2.announces builtin =
      (op.announcement? builtin).getD (registry.announces builtin) := by
  cases op with
  | register kind rule => cases builtin <;> rfl
  | registerBuiltin kind builtin' =>
    refine (announces_registerBuiltin registry kind builtin builtin').trans ?_
    by_cases h : builtin' = builtin <;> simp [Operation.announcement?, h]
  | find kind =>
    show (registry.find kind).2.announces builtin = registry.announces builtin
    rw [find_snd]
    split
    · rfl
    · rw [announces_load]
  | load => exact congrFun (announces_load registry) builtin
  | clear => cases builtin <;> rfl
  | resolve resolver tree =>
    show (resolver.resolve registry tree).registry.announces builtin = registry.announces builtin
    rcases resolver.resolve_registry registry tree with heq | heq
    · rw [heq]
    · rw [heq, announces_load]

/-- After a history each built-in rule announces the node type under which it was last registered
by hand, whether or not the registry has been cleared since. -/
theorem announces_run (ops : List Operation) (registry : Registry) (builtin : BuiltinRule) :
    (run ops registry).announces builtin =
      (lastAnnounced? builtin ops).getD (registry.announces builtin) := by
  induction ops using List.reverseRecOn with
  | nil => rfl
  | append_singleton ops op ih =>
    have hlast : lastAnnounced? builtin (ops ++ [op]) =
        (op.announcement? builtin).or (lastAnnounced? builtin ops) := by
      cases hop : op.announcement? builtin <;> simp [lastAnnounced?, hop]
    rw [run_concat, announces_perform, ih, hlast]
    cases op.announcement? builtin <;> rfl

/-- Registries that were cleared differ in what the built-in rules announce only. -/
theorem clear_congr {registry' : Registry} (h : registry.announces = registry'.announces) :
    registry.clear = registry'.clear := by
  have himport : registry.importType = registry'.importType := congrFun h .runtimeImport
  have hfunction : registry.functionType = registry'.functionType := congrFun h .renderFunction
  rw [clear, clear, himport, hfunction]

theorem renderFunction_ne_runtimeImport : RenderFunction.rule ≠ RuntimeImport.rule :=
  fun h => absurd (congrArg Rule.name h) (by decide)

theorem eq_importType_of_joining? (h : registry.joining? kind = some RuntimeImport.rule) :
    kind = registry.importType := by
  by_contra hne
  rw [joining?, if_neg hne, Option.none_or] at h
  split_ifs at h
  exact renderFunction_ne_runtimeImport (Option.some.inj h)

theorem eq_functionType_of_joining? (h : registry.joining? kind = some RenderFunction.rule) :
    kind = registry.functionType := by
  by_contra hne
  rw [joining?, if_neg hne, Option.or_none] at h
  split_ifs at h
  exact renderFunction_ne_runtimeImport (Option.some.inj h).symm

/-- In a cleared registry the built-in rules are found under the node types that they announce. -/
theorem announces_of_onlyBuiltins (h : registry.clear.OnlyBuiltins) :
    registry.announces = initial.announces := by
  have hjoining : ∀ kind, registry.joining? kind = builtin? kind := fun kind => by
    rw [← h kind, find_fst]
    rfl
  funext builtin
  cases builtin with
  | runtimeImport => exact (eq_importType_of_joining? (hjoining "ImportDeclaration")).symm
  | renderFunction => exact (eq_functionType_of_joining? (hjoining "FunctionDeclaration")).symm

/-- **A cleared registry is as good as new** just when the last node type under which each built-in
rule was registered by hand, if there is one, is its own. -/
theorem tfae_clear_run (ops : List Operation) :
    [ ∀ builtin, ∀ kind ∈ lastAnnounced? builtin ops, kind = initial.announces builtin,
      ∀ later, answers later (run ops initial).clear = answers later initial,
      (run ops initial).clear.OnlyBuiltins ].TFAE := by
  tfae_have 1 → 2 := fun h later => by
    have hannounces : (run ops initial).announces = initial.announces := by
      funext builtin
      rw [announces_run]
      cases hlast : lastAnnounced? builtin ops with
      | none => rfl
      | some kind => exact h builtin kind hlast
    rw [clear_congr hannounces]
    rfl
  -- one look-up tells the two registries apart
  tfae_have 2 → 3 := fun h kind => by
    have hanswers := h [.find kind]
    simp only [answers, Operation.perform, List.cons.injEq, Answer.rule.injEq, and_true] at hanswers
    rw [hanswers]
    exact onlyBuiltins_initial kind
  tfae_have 3 → 1 := fun h builtin kind hkind => by
    rw [← announces_of_onlyBuiltins h, announces_run, Option.mem_def.1 hkind, Option.getD_some]
  tfae_finish

/-- The rule for imports is registered for another node type, and the registry is cleared. -/
theorem not_every_clear_resets :
    ¬ ∀ ops kind, answers [.find kind] (run ops initial).clear = answers [.find kind] initial := by
  intro h
  have hlost : answers [.find "ImportDeclaration"]
      (run [.registerBuiltin "X" .runtimeImport] initial).clear = [.rule none] := rfl
  have hfound : answers [.find "ImportDeclaration"] initial =
      [.rule (some RuntimeImport.rule)] := rfl
  have heq := h [.registerBuiltin "X" .runtimeImport] "ImportDeclaration"
  rw [hlost, hfound] at heq
  cases heq

end Registry
end ComponentLookup
