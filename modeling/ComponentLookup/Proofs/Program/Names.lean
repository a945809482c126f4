import ComponentLookup.Proofs.Program.Binding
import Mathlib.Data.List.Nodup
import Mathlib.Data.List.Perm.Basic

/-!
# Names bound by imports

A module that binds a name twice by its imports does not load.  Whether a resolution can lead there
is a question about all imports of a program at once, while the rule for imports looks at one
declaration at a time.

* `Program.importedNames` : the local names that the imports of a program bind.
* `Program.importedNames_resolved` : a resolution adds the name of the resolver behind the names of
  each import that gains it, and changes no other name.
* `Resolver.nodup_importedNames_iff` : the names are **pairwise distinct** after a resolution if and
  only if they were so before, and no two imports bind the resolver or are about to.

So a second import of the runtime binds the resolver again (`not_nodup_preserved`).  So does one
beside an import that has taken the name from another module.
-/

namespace ComponentLookup

open Json

namespace Program

variable {config : Config} {v w : Json} {fields : Fields} {items : List Json}

/-! ### Local names -/

/-- The local name that a specifier binds. -/
def localName? (specifier : Json) : Option String :=
  (specifier.get? "local").bind Node.identifierName?

/-- The local names that an import declaration binds, in order. -/
def localNames (declaration : Json) : List String :=
  if declaration.isKind "ImportDeclaration" then
    (((declaration.get? "specifiers").bind items?).getD []).filterMap localName?
  else []

/-- The local names that the imports directly in a program bind, in order. -/
def importedNames (program : Json) : List String := (children program).flatMap localNames

/-- The import is given the name of the resolver, which it does not bind yet. -/
def gainsResolver (config : Config) (v : Json) : Bool :=
  canImportResolver config v && !importsResolver config v

/-- The names that an import gains. -/
def gainedNames (config : Config) (v : Json) : List String :=
  if gainsResolver config v then [config.resolverLocalName] else []

theorem bindsLocal_iff {name : String} : Node.bindsLocal name v = true ↔
    localName? v = some name := by
  unfold Node.bindsLocal localName?
  cases v.get? "local" <;> simp

theorem localNames_of_specifiers (hk : v.isKind "ImportDeclaration" = true)
    (hs : v.get? "specifiers" = some (.arr items)) :
    localNames v = items.filterMap localName? := by
  rw [localNames, if_pos hk, hs]
  rfl

/-- An import binds the resolver if its name is among the local ones. -/
theorem importsResolver_iff_mem :
    importsResolver config v = true ↔ config.resolverLocalName ∈ localNames v := by
  rw [importsResolver_iff]
  constructor
  · rintro ⟨hk, items, hs, hb⟩
    obtain ⟨specifier, hmem, hb⟩ := List.any_eq_true.1 hb
    rw [localNames_of_specifiers hk hs]
    exact List.mem_filterMap.2 ⟨specifier, hmem, bindsLocal_iff.1 hb⟩
  · intro hmem
    by_cases hk : v.isKind "ImportDeclaration" = true
    · rw [localNames, if_pos hk] at hmem
      obtain ⟨specifier, hspec, hname⟩ := List.mem_filterMap.1 hmem
      cases hs : (v.get? "specifiers").bind items? with
      | none => simp [hs] at hspec
      | some items =>
        obtain ⟨specifiers, hget, hi⟩ := Option.bind_eq_some_iff.1 hs
        rw [items?_eq_some_iff.1 hi] at hget
        rw [hs, Option.getD_some] at hspec
        exact ⟨hk, items, hget, List.any_eq_true.2 ⟨specifier, hspec, bindsLocal_iff.2 hname⟩⟩
    · simp [localNames, hk] at hmem

/-! ### What an import gains -/

theorem gainsResolver_iff : gainsResolver config v = true ↔
    v.isKind "ImportDeclaration" = true ∧ namesRuntime config v = true ∧
      ∃ items, v.get? "specifiers" = some (.arr items) ∧
        ¬ items.any (Node.bindsLocal config.resolverLocalName) = true := by
  rw [gainsResolver, Bool.and_eq_true, Bool.not_eq_true', ← Bool.not_eq_true, canImportResolver_iff,
    importsResolver_iff]
  constructor
  · rintro ⟨⟨hk, items, hs, hb | hn⟩, hnot⟩
    · exact absurd ⟨hk, items, hs, hb⟩ hnot
    · exact ⟨hk, hn, items, hs, fun hb => hnot ⟨hk, items, hs, hb⟩⟩
  · rintro ⟨hk, hn, items, hs, hb⟩
    refine ⟨⟨hk, items, hs, .inr hn⟩, ?_⟩
    rintro ⟨-, items', hs', hb'⟩
    rw [hs] at hs'
    cases hs'
    exact hb hb'

theorem gainedNames_of_not_isKind (hk : ¬ v.isKind "ImportDeclaration" = true) :
    gainedNames config v = [] :=
  if_neg fun hg => hk (gainsResolver_iff.1 hg).1

theorem localNames_of_not_isKind (hk : ¬ v.isKind "ImportDeclaration" = true) :
    localNames v = [] := if_neg hk

/-- An import that gains nothing stays as it is. -/
theorem update_withResolver_eq_self (hk : v.isKind "ImportDeclaration" = true)
    (hg : ¬ gainsResolver config v = true) :
    (if namesRuntime config v then v.update "specifiers" (withResolver config) else v) = v := by
  split_ifs with hn
  · refine update_eq_self fun specifiers hs => withResolver_eq_self fun items hi => ?_
    by_contra hb
    exact hg (gainsResolver_iff.2 ⟨hk, hn, items, hi ▸ hs, hb⟩)
  · rfl

/-- What stands for an import after the resolution binds the names from before, and behind them what
the import has gained. -/
theorem localNames_resolvedStatement? (hk : v.isKind "ImportDeclaration" = true)
    (h : resolvedStatement? config v = some w) :
    localNames w = localNames v ++ gainedNames config v := by
  rw [resolvedStatement?_of_isKind_importDeclaration hk, Option.some.injEq] at h
  by_cases hg : gainsResolver config v = true
  · obtain ⟨-, hn, items, hs, hb⟩ := gainsResolver_iff.1 hg
    have hw : w.get? "specifiers" = some (.arr (items ++ [Node.importSpecifier
        (.str config.resolverImportName) (.str config.resolverLocalName)])) := by
      rw [← h, if_pos hn, get?_update_self, hs, Option.map_some, withResolver, if_neg hb]
    have hkw : w.isKind "ImportDeclaration" = true := by
      rw [← h, if_pos hn, isKind_update (by decide), hk]
    rw [localNames_of_specifiers hkw hw, localNames_of_specifiers hk hs, List.filterMap_append,
      gainedNames, if_pos hg]
    rfl
  · rw [← h, update_withResolver_eq_self hk hg, gainedNames, if_neg hg, List.append_nil]

variable (config) in
/-- What becomes of a value that stands directly in a program binds the names from before, and what
was gained.  What is taken out has bound none. -/
theorem localNames_resolved? (v : Json) : (resolved? config v).toList.flatMap localNames =
    localNames v ++ gainedNames config v := by
  by_cases hk : v.isKind "ImportDeclaration" = true
  · have hp : ¬ v.isKind "Program" = true := not_isKind_of_isKind hk (by decide)
    obtain ⟨w, hr⟩ := exists_resolved?_of_isKind_importDeclaration config hk
    rw [hr, Option.toList_some, List.flatMap_singleton]
    exact localNames_resolvedStatement? hk (resolved?_of_not_program hp ▸ hr)
  · rw [localNames_of_not_isKind hk, gainedNames_of_not_isKind hk, List.append_nil]
    cases hr : resolved? config v with
    | none => rfl
    | some w =>
      rw [Option.toList_some, List.flatMap_singleton, localNames_of_not_isKind]
      rwa [isKind_resolved? hr]

/-! ### The names of a resolved program -/

theorem localNames_standing (v : Json) : (standing (resolvedValue config v)).flatMap localNames =
    (standing v).flatMap fun u => localNames u ++ gainedNames config u := by
  cases v with
  | arr items =>
    rw [resolvedValue_arr, standing, standing]
    induction items with
    | nil => rfl
    | cons u rest ih =>
      rw [resolvedItems, List.flatMap_append, List.flatMap_cons, ih, localNames_resolved?]
  | obj fields =>
    rw [resolvedValue_obj, standing_obj, List.flatMap_singleton, ← localNames_resolved?]
    cases hr : resolved? config (.obj fields) with
    | none => rfl
    | some w =>
      obtain ⟨fields', rfl⟩ := exists_fields_of_resolved? hr
      rw [Option.getD_some, standing_obj, Option.toList_some]
  | _ => rfl

theorem importedNames_resolved (hp : v.isKind "Program" = true) :
    importedNames (resolved config v) =
      (children v).flatMap fun u => localNames u ++ gainedNames config u := by
  obtain ⟨fields, rfl⟩ := exists_fields_of_isNode (isNode_of_isKind hp)
  rw [importedNames, resolved, resolved?_program hp, Option.getD_some, children, children]
  clear hp
  induction fields with
  | nil => rfl
  | cons field rest ih =>
    obtain ⟨key, u⟩ := field
    rw [resolvedFields_cons, List.flatMap_cons, List.flatMap_append, ih, List.flatMap_cons,
      List.flatMap_append]
    congr 1
    by_cases hkey : key = "type"
    · simp [hkey]
    · simp only [if_neg hkey, localNames_standing]

/-! ### Distinct names -/

theorem flatMap_gainedNames (nodes : List Json) : nodes.flatMap (gainedNames config) =
    List.replicate (nodes.countP (gainsResolver config)) config.resolverLocalName := by
  induction nodes with
  | nil => rfl
  | cons v rest ih =>
    rw [List.flatMap_cons, ih, gainedNames]
    split_ifs with hg
    · rw [List.countP_cons_of_pos hg, List.replicate_succ, List.singleton_append]
    · rw [List.countP_cons_of_neg hg, List.nil_append]

/-- An import that can bind the resolver does so already, or gains it. -/
theorem countP_canImportResolver (nodes : List Json) :
    nodes.countP (canImportResolver config) =
      nodes.countP (importsResolver config) + nodes.countP (gainsResolver config) := by
  induction nodes with
  | nil => rfl
  | cons v rest ih =>
    by_cases hi : importsResolver config v = true
    · have hc : canImportResolver config v = true := by rw [canImportResolver, hi, Bool.true_or]
      have hg : ¬ gainsResolver config v = true := by simp [gainsResolver, hi]
      rw [List.countP_cons_of_pos hc, List.countP_cons_of_pos hi, List.countP_cons_of_neg hg, ih]
      omega
    · have hg : gainsResolver config v = canImportResolver config v := by simp [gainsResolver, hi]
      rw [List.countP_cons_of_neg hi, List.countP_cons, List.countP_cons, hg, ih]
      omega

theorem countP_importsResolver_pos_iff (config : Config) (nodes : List Json) :
    0 < nodes.countP (importsResolver config) ↔
      config.resolverLocalName ∈ nodes.flatMap localNames := by
  rw [List.countP_pos_iff, List.mem_flatMap]
  simp only [importsResolver_iff_mem]

/-- Each import that binds the resolver has its name once at least. -/
theorem countP_importsResolver_le_count (config : Config) (nodes : List Json) :
    nodes.countP (importsResolver config) ≤
      (nodes.flatMap localNames).count config.resolverLocalName := by
  induction nodes with
  | nil => simp
  | cons v rest ih =>
    rw [List.countP_cons, List.flatMap_cons, List.count_append]
    split_ifs with hi
    · have := List.count_pos_iff.2 (importsResolver_iff_mem.1 hi)
      omega
    · omega

/-- **Names stay distinct** if and only if at most one import binds the resolver in the end. -/
theorem nodup_flatMap_append_iff (nodes : List Json) :
    (nodes.flatMap fun u => localNames u ++ gainedNames config u).Nodup ↔
      (nodes.flatMap localNames).Nodup ∧ nodes.countP (canImportResolver config) ≤ 1 := by
  rw [(List.flatMap_append_perm nodes localNames (gainedNames config)).nodup_iff.symm,
    flatMap_gainedNames, List.nodup_append, List.nodup_replicate, countP_canImportResolver]
  have hpos := countP_importsResolver_pos_iff config nodes
  constructor
  · rintro ⟨hn, hle, hdisjoint⟩
    refine ⟨hn, ?_⟩
    have hcount := List.nodup_iff_count_le_one.1 hn config.resolverLocalName
    have hbound := countP_importsResolver_le_count config nodes
    by_cases hgains : 0 < nodes.countP (gainsResolver config)
    · -- the name that is gained was not bound before
      have hnot : ¬ 0 < nodes.countP (importsResolver config) := fun hi =>
        hdisjoint _ (hpos.1 hi) _ (List.mem_replicate.2 ⟨by omega, rfl⟩) rfl
      omega
    · omega
  · rintro ⟨hn, hle⟩
    refine ⟨hn, by omega, ?_⟩
    rintro a ha b hb rfl
    obtain ⟨hne, rfl⟩ := List.mem_replicate.1 hb
    have := hpos.2 ha
    omega

end Program

/-! ### Resolutions -/

namespace Resolver

variable {r : Resolver} {registry : Registry} {tree : Json}

/-- **The imports of a resolved program bind pairwise distinct names** if and only if they did so
before, and at most one of them binds the resolver already or is an import of the runtime with a
list of specifiers. -/
theorem nodup_importedNames_iff (h : registry.OnlyBuiltins) (hp : tree.isKind "Program" = true)
    (hd : tree.DistinctKeys) :
    (Program.importedNames (r.resolve registry tree).tree).Nodup ↔
      (Program.importedNames tree).Nodup ∧
        (Program.children tree).countP (Program.canImportResolver r.config) ≤ 1 := by
  rw [r.tree_resolve h hp hd, Program.importedNames_resolved hp]
  exact Program.nodup_flatMap_append_iff _

end Resolver

/-! ### Two samples -/

namespace Sample

/-- The specifier of a name that is imported as it is. -/
def specifier (name : String) : Json := Node.importSpecifier (.str name) (.str name)

/-- Imports of several modules, the runtime among them once. -/
def severalImports : Json :=
  program [importFrom "vue" [specifier "h", specifier "ref"],
    importFrom "vue/jsx-runtime" [specifier "jsx"],
    importFrom "vue/jsx-dev-runtime" [specifier "jsxDEV"], entry [assertion "Foo"], helper]

/-- Two imports of the runtime. -/
def twoRuntimes : Json :=
  program [importFrom "vue/jsx-runtime" [specifier "jsx"],
    importFrom "vue/jsx-runtime" [specifier "jsxs"]]

end Sample

open Sample in
theorem nodup_importedNames_severalImports :
    severalImports.isKind "Program" = true ∧ severalImports.DistinctKeys ∧
      (Program.importedNames
        ((Resolver.new .default none).resolve .initial severalImports).tree).Nodup := by
  have hp : severalImports.isKind "Program" = true := by decide
  have hd : severalImports.DistinctKeys := by decide
  have hnames : (Program.importedNames severalImports).Nodup ∧
      (Program.children severalImports).countP (Program.canImportResolver .default) ≤ 1 := by
    decide
  exact ⟨hp, hd, (Resolver.nodup_importedNames_iff (r := .new .default none)
    Registry.onlyBuiltins_initial hp hd).2 hnames⟩

/-- A resolution may bind the resolver twice. -/
theorem not_nodup_preserved :
    ¬ ∀ (r : Resolver) (registry : Registry) (tree : Json), registry.OnlyBuiltins →
      r.config.IsValid → tree.isKind "Program" = true → tree.DistinctKeys →
      (Program.importedNames tree).Nodup →
      (Program.importedNames (r.resolve registry tree).tree).Nodup := by
  intro hclaim
  have hnodup := hclaim (.new .default none) .initial Sample.twoRuntimes
    Registry.onlyBuiltins_initial (by unfold Config.IsValid; decide) (by decide) (by decide)
    (by decide)
  revert hnodup
  decide

end ComponentLookup
