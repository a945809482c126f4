import ComponentLookup.Proofs.Program.Exact
import ComponentLookup.Proofs.Program.Idempotence

/-!
# The clause of an import

The specifiers of an import make a clause: perhaps a default, and behind it nothing, the namespace
of the module, or any number of names (`ImportClause.isLegal`).  The rule for imports adds a name
and does not look at what is there.

* `ImportClause.isLegal_concat_iff` : a name may follow all legal clauses but those that bind a
  namespace.
* `RuntimeImport.isLegal_apply_iff` : so the rule **keeps a clause legal** unless it adds the
  resolver behind a namespace, and `RuntimeImport.not_isLegal_apply` is an import that it spoils.
-/

namespace ComponentLookup

open Json

namespace ImportClause

/-- What an import may bind besides a default: names, or one namespace. -/
def areBindings (specifiers : List Json) : Bool :=
  specifiers.all (·.isKind "ImportSpecifier") ||
    (specifiers.length == 1 && specifiers.all (·.isKind "ImportNamespaceSpecifier"))

/-- The specifiers are in the order of a clause. -/
def isLegal : List Json → Bool
  | [] => true
  | v :: rest =>
    if v.isKind "ImportDefaultSpecifier" then areBindings rest else areBindings (v :: rest)

/-- The import binds the namespace of its module. -/
def bindsNamespace (specifiers : List Json) : Bool :=
  specifiers.any (·.isKind "ImportNamespaceSpecifier")

variable {specifiers : List Json} {named : Json}

theorem areBindings_iff : areBindings specifiers = true ↔
    (∀ v ∈ specifiers, v.isKind "ImportSpecifier" = true) ∨
      ∃ v, specifiers = [v] ∧ v.isKind "ImportNamespaceSpecifier" = true := by
  simp only [areBindings, Bool.or_eq_true, Bool.and_eq_true, List.all_eq_true, beq_iff_eq,
    List.length_eq_one_iff]
  refine or_congr_right ⟨?_, ?_⟩
  · rintro ⟨⟨v, rfl⟩, hv⟩
    exact ⟨v, rfl, hv v List.mem_cons_self⟩
  · rintro ⟨v, rfl, hv⟩
    exact ⟨⟨v, rfl⟩, by simpa using hv⟩

theorem bindsNamespace_eq_false (h : ∀ v ∈ specifiers, v.isKind "ImportSpecifier" = true) :
    bindsNamespace specifiers = false :=
  List.any_eq_false.2 fun v hv => not_isKind_of_isKind (h v hv) (by decide)

/-- A name follows names, and nothing else that stands without a default. -/
theorem areBindings_concat_iff (h : areBindings specifiers = true)
    (hn : named.isKind "ImportSpecifier" = true) :
    areBindings (specifiers ++ [named]) = true ↔ bindsNamespace specifiers = false := by
  rw [areBindings_iff]
  rcases areBindings_iff.1 h with hnames | ⟨v, rfl, hv⟩
  · refine iff_of_true (.inl fun v hv => ?_) (bindsNamespace_eq_false hnames)
    rcases List.mem_append.1 hv with hv | hv
    · exact hnames v hv
    · rwa [List.mem_singleton.1 hv]
  · have hother : v.isKind "ImportSpecifier" = false := isKind_eq_false_of_isKind hv (by decide)
    simp [bindsNamespace, hv, hother]

/-- **A name may be added** to a legal clause unless the clause binds a namespace. -/
theorem isLegal_concat_iff (h : isLegal specifiers = true)
    (hn : named.isKind "ImportSpecifier" = true) :
    isLegal (specifiers ++ [named]) = true ↔ bindsNamespace specifiers = false := by
  cases specifiers with
  | nil =>
    have hdefault : named.isKind "ImportDefaultSpecifier" = false :=
      isKind_eq_false_of_isKind hn (by decide)
    simp [isLegal, areBindings, bindsNamespace, hdefault, hn]
  | cons v rest =>
    rw [List.cons_append]
    simp only [isLegal] at h ⊢
    split_ifs at h ⊢ with hdefault
    · have hother : v.isKind "ImportNamespaceSpecifier" = false :=
        isKind_eq_false_of_isKind hdefault (by decide)
      rw [areBindings_concat_iff h hn]
      simp [bindsNamespace, hother]
    · exact areBindings_concat_iff h hn

end ImportClause

namespace RuntimeImport

open ImportClause

/-- **The clause of an import stays legal**, except where the rule adds the resolver behind a
namespace: in an import of the runtime that binds one, and does not bind the resolver. -/
theorem isLegal_apply_iff {v : Json} {specifiers : List Json}
    (hv : v.isKind "ImportDeclaration" = true) (hs : v.get? "specifiers" = some (.arr specifiers))
    (hl : isLegal specifiers = true) (ctx : Context) :
    ∃ specifiers', (apply v ctx).node.get? "specifiers" = some (.arr specifiers') ∧
      (isLegal specifiers' = true ↔
        ¬ (Program.namesRuntime ctx.config v = true ∧ bindsNamespace specifiers = true ∧
          ¬ specifiers.any (Node.bindsLocal ctx.config.resolverLocalName) = true)) := by
  have hnode := isNode_of_isKind hv
  obtain ⟨heq, hlist⟩ | ⟨source, items, -, hitems, hbinds, heq⟩ |
      ⟨items, hruntime, hitems, hnew, heq⟩ := Program.runtimeImport_cases hnode ctx
  · -- the rule passes by an import of the runtime only if that lists no specifiers
    refine ⟨specifiers, by rw [heq]; exact hs, iff_of_true hl fun ⟨hruntime, _⟩ => ?_⟩
    have hnone := hlist hruntime
    rw [hs] at hnone
    cases hnone
  · obtain rfl : specifiers = items := by simpa [hs] using hitems
    exact ⟨specifiers, by rw [heq]; exact hs, iff_of_true hl fun ⟨_, _, hnew⟩ => hnew hbinds⟩
  · obtain rfl : specifiers = items := by simpa [hs] using hitems
    refine ⟨_, by rw [heq]; exact get?_set_self hnode, ?_⟩
    rw [isLegal_concat_iff hl rfl]
    simp [hruntime, hnew]

end RuntimeImport

namespace Sample

/-- A specifier of the given type. -/
def typedSpecifier (type localName : String) : Json :=
  .obj [("type", .str type), ("local", Node.identifier (.str localName))]

/-- The runtime, imported with its default and under names. -/
def namedRuntime : Json :=
  importFrom "vue/jsx-runtime" [typedSpecifier "ImportDefaultSpecifier" "runtime",
    Node.importSpecifier (.str "jsx") (.str "_jsx")]

/-- The runtime, imported as a namespace. -/
def namespaceRuntime : Json :=
  importFrom "vue/jsx-runtime" [typedSpecifier "ImportNamespaceSpecifier" "runtime"]

end Sample

namespace RuntimeImport

open ImportClause Sample

theorem isLegal_apply_namedRuntime :
    namedRuntime.isKind "ImportDeclaration" = true ∧
      ∃ specifiers specifiers', namedRuntime.get? "specifiers" = some (.arr specifiers) ∧
        isLegal specifiers = true ∧
        (apply namedRuntime (.fresh .default (.empty true))).node.get? "specifiers" =
          some (.arr specifiers') ∧
        isLegal specifiers' = true := by
  have hv : namedRuntime.isKind "ImportDeclaration" = true := by decide
  have hl : isLegal [typedSpecifier "ImportDefaultSpecifier" "runtime",
    Node.importSpecifier (.str "jsx") (.str "_jsx")] = true := by decide
  obtain ⟨specifiers', hs', hiff⟩ := isLegal_apply_iff hv rfl hl (.fresh .default (.empty true))
  exact ⟨hv, _, specifiers', rfl, hl, hs', hiff.2 fun ⟨_, hnamespace, _⟩ => by
    revert hnamespace
    decide⟩

/-- Behind a namespace no name may follow. -/
theorem not_isLegal_apply :
    ¬ ∀ (v : Json) (specifiers : List Json) (ctx : Context),
      v.isKind "ImportDeclaration" = true → v.get? "specifiers" = some (.arr specifiers) →
      isLegal specifiers = true →
      ∃ specifiers', (apply v ctx).node.get? "specifiers" = some (.arr specifiers') ∧
        isLegal specifiers' = true := by
  intro hclaim
  obtain ⟨specifiers', hs', hlegal⟩ := hclaim namespaceRuntime
    [typedSpecifier "ImportNamespaceSpecifier" "runtime"] (.fresh .default (.empty true))
    (by decide) rfl (by decide)
  have happly : (apply namespaceRuntime (.fresh .default (.empty true))).node.get? "specifiers" =
      some (.arr [typedSpecifier "ImportNamespaceSpecifier" "runtime",
        Node.importSpecifier (.str "resolveComponent") (.str "_resolveComponent")]) := rfl
  rw [happly] at hs'
  cases hs'
  revert hlegal
  decide

end RuntimeImport
end ComponentLookup
