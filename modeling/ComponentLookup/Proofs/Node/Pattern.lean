import ComponentLookup.Node.Pattern
import ComponentLookup.Proofs.Json.Update
import Mathlib.Data.Option.Basic

/-!
# What the recognised shapes say

Each recogniser of `ComponentLookup.Node.Pattern` that returns parts of a node, as the conjunction
of what it has found.  The statements are equivalences, so that they serve to take a match apart
and to show that a built node matches.
-/

namespace ComponentLookup

namespace Json

variable {v : Json}

theorem text?_eq_some_iff {s : String} : v.text? = some s ↔ v = .str s := by
  cases v <;> simp [text?]

theorem items?_eq_some_iff {items : List Json} : v.items? = some items ↔ v = .arr items := by
  cases v <;> simp [items?]

end Json

namespace Node

open Json

theorem blockStatements?_eq_some_iff {block : Json} {statements : List Json} :
    blockStatements? block = some statements ↔
      block.isKind "BlockStatement" = true ∧ block.get? "body" = some (.arr statements) := by
  unfold blockStatements?
  split_ifs with hk <;>
    simp [hk, Option.bind_eq_some_iff, items?_eq_some_iff]

theorem identifierCall?_eq_some_iff {e : Json} {m : IdentifierCall} :
    identifierCall? e = some m ↔ e.isKind "CallExpression" = true ∧ m.call = e ∧
      e.get? "callee" = some m.callee ∧ m.callee.isKind "Identifier" = true ∧
      e.get? "arguments" = some (.arr m.arguments) := by
  obtain ⟨call, callee, arguments⟩ := m
  simp only [identifierCall?, bind, Option.bind_eq_some_iff, Option.guard_eq_some', exists_const,
    items?_eq_some_iff, pure, Option.some.injEq, IdentifierCall.mk.injEq]
  constructor
  · rintro ⟨hk, _, hc, hi, _, ⟨_, ha, rfl⟩, rfl, rfl, rfl⟩
    exact ⟨hk, rfl, hc, hi, ha⟩
  · rintro ⟨hk, rfl, hc, hi, ha⟩
    exact ⟨hk, _, hc, hi, _, ⟨_, ha, rfl⟩, rfl, rfl, rfl⟩

theorem negatedIdentifier?_eq_some_iff {test identifier : Json} :
    negatedIdentifier? test = some identifier ↔ test.isKind "UnaryExpression" = true ∧
      test.get? "operator" = some (.str "!") ∧ test.get? "argument" = some identifier ∧
      identifier.isKind "Identifier" = true := by
  simp only [negatedIdentifier?, bind, Option.bind_eq_some_iff, Option.guard_eq_some', exists_const,
    text?_eq_some_iff, beq_iff_eq, pure, Option.some.injEq]
  constructor
  · rintro ⟨hk, _, ⟨_, ho, rfl⟩, rfl, _, ha, hi, rfl⟩
    exact ⟨hk, ho, ha, hi⟩
  · rintro ⟨hk, ho, ha, hi⟩
    exact ⟨hk, _, ⟨_, ho, rfl⟩, rfl, _, ha, hi, rfl⟩

theorem missingReferenceCheck?_eq_some_iff {s : Json} {check : MissingReferenceCheck} :
    missingReferenceCheck? s = some check ↔ s.isKind "IfStatement" = true ∧ check.statement = s ∧
      (s.get? "test").bind negatedIdentifier? = some check.identifier ∧
      (s.get? "consequent").bind soleExpressionStatement? = some check.expressionStatement ∧
      check.expressionStatement.get? "expression" = some check.expression ∧
      check.expression.isNode = true := by
  obtain ⟨statement, identifier, expressionStatement, expression⟩ := check
  simp only [missingReferenceCheck?, bind, Option.bind_eq_some_iff, Option.guard_eq_some',
    exists_const, pure, Option.some.injEq, MissingReferenceCheck.mk.injEq]
  constructor
  · rintro ⟨hk, _, hi, _, hs, _, he, hn, rfl, rfl, rfl, rfl⟩
    exact ⟨hk, rfl, hi, hs, he, hn⟩
  · rintro ⟨hk, rfl, hi, hs, he, hn⟩
    exact ⟨hk, _, hi, _, hs, _, he, hn, rfl, rfl, rfl, rfl⟩

/-- The sole statement of a branch is the branch itself, or stands alone between its braces. -/
theorem soleExpressionStatement?_eq_some_iff {branch s : Json} :
    soleExpressionStatement? branch = some s ↔ s.isKind "ExpressionStatement" = true ∧
      (branch = s ∨ blockStatements? branch = some [s]) := by
  unfold soleExpressionStatement?
  split_ifs with hk
  · constructor
    · rintro h; cases h; exact ⟨hk, .inl rfl⟩
    · rintro ⟨-, rfl | hb⟩
      · rfl
      · exact absurd (blockStatements?_eq_some_iff.1 hb).1 (not_isKind_of_isKind hk (by decide))
  · split
    · rename_i statement hb
      rw [hb]
      by_cases hs : statement.isKind "ExpressionStatement"
      · simp only [hs, if_true, Option.some.injEq, List.cons.injEq, and_true]
        constructor
        · rintro rfl; exact ⟨hs, .inr rfl⟩
        · rintro ⟨h, rfl | h'⟩
          · exact absurd h hk
          · exact h'
      · simp only [hs, Option.some.injEq, List.cons.injEq, and_true]
        constructor
        · intro h; cases h
        · rintro ⟨h, rfl | rfl⟩
          · exact absurd h hk
          · exact absurd h hs
    · rename_i hb
      constructor
      · intro h; cases h
      · rintro ⟨h, rfl | h'⟩
        · exact absurd h hk
        · exact absurd h' (hb s)

end Node

end ComponentLookup
