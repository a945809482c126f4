import ComponentLookup.Proofs.Json.Path
import ComponentLookup.Proofs.Program.Exact

/-!
# Places of assertions

An assertion stands in the render body of an entry function: in the branch of a statement whose test
begins with a negation, directly in the statements of the first function with the name of the render
body, in a function with the name of the entry that stands directly in the program.

* `Program.AssertionSite` : these places, for the statements that satisfy a condition.
* `Program.IsReached` : the condition under which the scan resolves an assertion: the test negates
  an identifier, and the scan passes all statements before it.
* `Program.at?_of_statementSite` : for a statement that is recognised as an assertion, its place is
  that of its expression.

The places are given level by level, and the lemmas say at each level where a place can be.
-/

namespace ComponentLookup

open Json

namespace Program

/-! ### The places, level by level -/

/-- The place of the expression in a branch that is one expression, with braces or without. -/
def BranchSite (branch : Json) (path : Path) : Prop :=
  (branch.isKind "ExpressionStatement" = true ∧ path = [.field "expression"]) ∨
    ∃ s, Node.blockStatements? branch = some [s] ∧ s.isKind "ExpressionStatement" = true ∧
      path = [.field "body", .item 0, .field "expression"]

/-- The statement does something if a test that begins with a negation succeeds. -/
def IsNegatedIf (s : Json) : Prop :=
  s.isKind "IfStatement" = true ∧ ∃ test, s.get? "test" = some test ∧
    test.isKind "UnaryExpression" = true ∧ test.get? "operator" = some (.str "!")

/-- The place of what such a statement does. -/
def StatementSite (s : Json) (path : Path) : Prop :=
  IsNegatedIf s ∧ ∃ branch rest, s.get? "consequent" = some branch ∧ BranchSite branch rest ∧
    path = .field "consequent" :: rest

/-- A place in one of the statements of a list that satisfy a condition. -/
def GuardSite (ok : List Json → Nat → Prop) (statements : List Json) (path : Path) : Prop :=
  ∃ index s rest, statements[index]? = some s ∧ ok statements index ∧ StatementSite s rest ∧
    path = .item index :: rest

/-- A place in the statements of a function. -/
def BodySite (site : List Json → Path → Prop) (function : Json) (path : Path) : Prop :=
  ∃ statements rest, body? function = some statements ∧ site statements rest ∧
    path = .field "body" :: .field "body" :: rest

/-- A place in the first item that satisfies a test. -/
def FirstSite (test : Json → Bool) (site : Json → Path → Prop) (items : List Json) (path : Path) :
    Prop :=
  ∃ index v rest, items[index]? = some v ∧ test v = true ∧
    (∀ i < index, ∀ u, items[i]? = some u → ¬ test u = true) ∧ site v rest ∧
    path = .item index :: rest

/-- A place in a value that stands directly in a program. -/
def ChildSite (site : Json → Path → Prop) (program : Json) (path : Path) : Prop :=
  ∃ key v, key ≠ "type" ∧ program.get? key = some v ∧
    ((∃ rest, site v rest ∧ path = .field key :: rest) ∨
      ∃ items index u rest, v = .arr items ∧ items[index]? = some u ∧ site u rest ∧
        path = .field key :: .item index :: rest)

variable (config : Config) (ok : List Json → Nat → Prop)

/-- A place in the render body of an entry function. -/
def EntrySite (entry : Json) (path : Path) : Prop :=
  Node.isFunctionNamed entry config.renderEntryName = true ∧
    BodySite (FirstSite (Node.isFunctionNamed · config.renderBodyName) (BodySite (GuardSite ok)))
      entry path

/-- A place in an assertion of a program: in what a negated test guards, directly in the render body
of an entry function that stands directly in the program. -/
def AssertionSite (program : Json) (path : Path) : Prop :=
  ChildSite (EntrySite config ok) program path

/-- The scan goes on behind a statement. -/
def IsPassed (s : Json) : Prop :=
  s.isKind "VariableDeclaration" = true ∨ (Node.missingReferenceCheck? s).isSome = true

/-- The statement at an index tests an identifier, and the scan passes those before it. -/
def IsReached (statements : List Json) (index : Nat) : Prop :=
  (∃ s, statements[index]? = some s ∧
    ((s.get? "test").bind Node.negatedIdentifier?).isSome = true) ∧
    ∀ i < index, ∀ s, statements[i]? = some s → IsPassed s

variable {config ok} {v w s branch : Json} {items : List Json}
  {check : Node.MissingReferenceCheck} {localName : String}

/-! ### In a branch -/

theorem at?_of_branchSite {path : Path} (h : BranchSite branch path)
    (hsole : Node.soleExpressionStatement? branch = some s) :
    at? path branch = s.get? "expression" := by
  -- a branch has braces in both descriptions or in none
  obtain ⟨hs, heq⟩ := Node.soleExpressionStatement?_eq_some_iff.1 hsole
  rcases h with ⟨hk, rfl⟩ | ⟨u, hu, -, rfl⟩
  · rcases heq with rfl | hb
    · exact at?_singleton _ _
    · exact absurd (Node.blockStatements?_eq_some_iff.1 hb).1
        (not_isKind_of_isKind hk (by decide))
  · have hbody := Node.blockStatements?_eq_some_iff.1 hu
    rcases heq with rfl | hb
    · exact absurd hbody.1 (not_isKind_of_isKind hs (by decide))
    · rw [hu] at hb
      cases hb
      rw [at?_field, hbody.2]
      exact at?_singleton _ _

/-- The place in a branch that is one expression without braces. -/
theorem branchSite_of_isKind (hk : branch.isKind "ExpressionStatement" = true) {path : Path}
    (h : BranchSite branch path) : path = [.field "expression"] := by
  rcases h with ⟨-, rfl⟩ | ⟨u, hu, -, rfl⟩
  · rfl
  · exact absurd (Node.blockStatements?_eq_some_iff.1 hu).1 (not_isKind_of_isKind hk (by decide))

/-- The place in a branch that is one expression between braces. -/
theorem branchSite_of_isKind_block (hk : branch.isKind "BlockStatement" = true) {path : Path}
    (h : BranchSite branch path) : path = [.field "body", .item 0, .field "expression"] := by
  rcases h with ⟨hk', -⟩ | ⟨u, hu, -, rfl⟩
  · exact absurd hk' (not_isKind_of_isKind hk (by decide))
  · rfl

/-- A branch that is one expression has one place for it. -/
theorem exists_branchSite (hsole : Node.soleExpressionStatement? branch = some s) :
    ∃ path, BranchSite branch path ∧ ∀ path', BranchSite branch path' → path' = path := by
  obtain ⟨hs, rfl | hb⟩ := Node.soleExpressionStatement?_eq_some_iff.1 hsole
  · exact ⟨_, .inl ⟨hs, rfl⟩, fun _ => branchSite_of_isKind hs⟩
  · exact ⟨_, .inr ⟨s, hb, hs, rfl⟩,
      fun _ => branchSite_of_isKind_block (Node.blockStatements?_eq_some_iff.1 hb).1⟩

/-! ### In a statement -/

/-- The expression of an assertion is what stands at its place. -/
theorem at?_of_statementSite {path : Path} (hc : Node.missingReferenceCheck? s = some check)
    (hsite : StatementSite s path) : at? path s = some check.expression := by
  obtain ⟨-, -, -, -, he, -⟩ := Node.missingReferenceCheck?_eq_some_iff.1 hc
  obtain ⟨branch, hbranch, hsole, -⟩ := ReferenceScan.resolve_eq hc
  obtain ⟨-, branch', rest, hbranch', hsite, rfl⟩ := hsite
  rw [hbranch, Option.some.injEq] at hbranch'
  rw [at?_field, hbranch, Option.bind_some, at?_of_branchSite (hbranch' ▸ hsite) hsole, he]

/-! ### In the statements of a render body -/

theorem isPassed_iff : IsPassed s ↔ ReferenceScan.accepted? localName s ≠ none := by
  unfold IsPassed ReferenceScan.accepted?
  split_ifs with hv
  · simp [hv]
  · simp [hv, Option.isSome_iff_ne_none]

/-- The places in the first statement of a list. -/
theorem guardSite_zero {path : Path} (h : GuardSite ok (s :: items) (.item 0 :: path)) :
    ok (s :: items) 0 ∧ StatementSite s path := by
  obtain ⟨index, u, rest, hu, hok, hsite, heq⟩ := h
  cases heq
  cases hu
  exact ⟨hok, hsite⟩

/-- The places behind the first statement are those of the other statements, if the scan passes
it. -/
theorem guardSite_succ {index : Nat} {path : Path}
    (h : GuardSite IsReached (s :: items) (.item (index + 1) :: path)) :
    IsPassed s ∧ GuardSite IsReached items (.item index :: path) := by
  obtain ⟨_, u, rest, hu, ⟨⟨t, ht, hidentifier⟩, hpassed⟩, hsite, heq⟩ := h
  cases heq
  rw [List.getElem?_cons_succ] at hu ht
  refine ⟨hpassed 0 (Nat.succ_pos _) s rfl, index, u, path, hu, ⟨⟨t, ht, hidentifier⟩, ?_⟩,
    hsite, rfl⟩
  intro i hi w hw
  exact hpassed (i + 1) (Nat.succ_lt_succ hi) w (by rw [List.getElem?_cons_succ, hw])

/-! ### In the statements of an entry function -/

variable {test : Json → Bool} {site : Json → Path → Prop}

/-- The places in the first item of a list. -/
theorem firstSite_zero {path : Path} (h : FirstSite test site (v :: items) (.item 0 :: path)) :
    test v = true ∧ site v path := by
  obtain ⟨index, u, rest, hu, htest, -, hsite, heq⟩ := h
  cases heq
  cases hu
  exact ⟨htest, hsite⟩

/-- The places behind the first item are those of the other items, if it fails the test. -/
theorem firstSite_succ {index : Nat} {path : Path}
    (h : FirstSite test site (v :: items) (.item (index + 1) :: path)) :
    ¬ test v = true ∧ FirstSite test site items (.item index :: path) := by
  obtain ⟨_, u, rest, hu, htest, hbefore, hsite, heq⟩ := h
  cases heq
  refine ⟨hbefore 0 (Nat.succ_pos _) v rfl, index, u, path, hu, htest, fun i hi w hw => ?_, hsite,
    rfl⟩
  exact hbefore (i + 1) (Nat.succ_lt_succ hi) w (by rw [List.getElem?_cons_succ, hw])

/-! ### In a program -/

theorem at?_body {statements : List Json} (hv : body? v = some statements) (path : Path) :
    at? (.field "body" :: .field "body" :: path) v = at? path (.arr statements) := by
  obtain ⟨block, hblock, hs⟩ := Option.bind_eq_some_iff.1 hv
  rw [at?_field, hblock, Option.bind_some, at?_field, (Node.blockStatements?_eq_some_iff.1 hs).2,
    Option.bind_some]

/-- The places in an item of a program's list are those in the item itself. -/
theorem entrySite_of_item {key : String} {index : Nat} {path : Path}
    (hget : v.get? key = some (.arr items)) (hu : items[index]? = some w)
    (h : AssertionSite config ok v (.field key :: .item index :: path)) :
    EntrySite config ok w path := by
  obtain ⟨_, u, -, hv, ⟨_, hsite, heq⟩ | ⟨_, _, _, _, rfl, hu', hsite, heq⟩⟩ := h <;> cases heq
  · rw [hget, Option.some.injEq] at hv
    have := hv ▸ hsite.1
    cases this
  · rw [hget, Option.some.injEq, Json.arr.injEq] at hv
    rw [← hv, hu, Option.some.injEq] at hu'
    exact hu' ▸ hsite

/-- The places in a value that stands alone in a field are those in the value itself. -/
theorem entrySite_of_field {key : String} {path : Path} (hget : v.get? key = some w)
    (hw : w.items? = none) (h : AssertionSite config ok v (.field key :: path)) :
    EntrySite config ok w path := by
  obtain ⟨_, u, -, hv, ⟨_, hsite, heq⟩ | ⟨_, _, _, _, rfl, -, -, heq⟩⟩ := h <;> cases heq
  · rw [hget, Option.some.injEq] at hv
    exact hv ▸ hsite
  · rw [hget, Option.some.injEq] at hv
    subst hv
    cases hw

end Program

end ComponentLookup
