import ComponentLookup.Node.Render
import ComponentLookup.Proofs.Node.Pattern

/-!
# Texts that are not empty

A value that is absent has the empty text, and a report takes an edit whose text is empty afterwards
for one that has taken its node out.  The statements that the rules change always have a text
(`Node.render_ne_empty`): their layouts begin with a word, and without a layout their type stands
between angle brackets.
-/

namespace ComponentLookup

open Json

namespace Node

variable {fields : Fields} {v : Json} {kind s : String}

theorem placeholder_ne_empty (fields : Fields) : placeholder fields ≠ "" := by
  unfold placeholder
  split <;> simp [String.append_eq_empty_iff]

/-- A node whose layout begins with a text has a text. -/
theorem render_ne_empty_of_layout
    (h : ∀ pieces, layoutOf? fields = some pieces → ∃ s rest, s ≠ "" ∧ pieces = .text s :: rest) :
    render (.obj fields) ≠ "" := by
  rw [render]
  split
  · exact placeholder_ne_empty fields
  · rename_i pieces hpieces
    obtain ⟨s, rest, hs, rfl⟩ := h pieces hpieces
    rw [List.map_cons, String.join_cons]
    exact fun heq => hs (String.append_eq_empty_iff.1 heq).1

theorem layoutOf?_eq (h : (Json.obj fields).isKind kind = true) :
    layoutOf? fields = layout? fields kind := by
  obtain ⟨type, htype, htext⟩ := Option.bind_eq_some_iff.1 (isKind_iff.1 h)
  have hget : Fields.get? "type" fields = some (.str kind) := by
    rw [text?_eq_some_iff.1 htext] at htype
    exact htype
  rw [layoutOf?, hget]

/-- The kinds of the statements that the rules change. -/
def changedKinds : List String := ["ImportDeclaration", "VariableDeclaration", "IfStatement"]

theorem layout?_begins {pieces : List (Piece (partBound fields))}
    (h : layout? fields kind = some pieces) (hkind : kind ∈ changedKinds) :
    ∃ s rest, s ≠ "" ∧ pieces = .text s :: rest := by
  simp only [changedKinds, List.mem_cons, List.not_mem_nil, or_false] at hkind
  rcases hkind with rfl | rfl | rfl
  · have h : importLayout? fields = some pieces := h
    simp only [importLayout?, bind, Option.bind_eq_some_iff] at h
    obtain ⟨specifiers, -, cs, -, source, -, h⟩ := h
    split at h <;> cases h <;> exact ⟨_, _, by decide, rfl⟩
  · simp only [layout?, bind, Option.bind_eq_some_iff] at h
    obtain ⟨declarations, -, rows, -, declared, -, h⟩ := h
    cases h
    exact ⟨_, _, fun heq => by simp [String.append_eq_empty_iff] at heq, rfl⟩
  · simp only [layout?, bind, Option.bind_eq_some_iff] at h
    obtain ⟨test, -, consequent, -, h⟩ := h
    split_ifs at h <;> obtain ⟨alternate, -, h⟩ := Option.bind_eq_some_iff.1 h <;> cases h <;>
      exact ⟨_, _, by decide, rfl⟩

/-- **A statement that the rules change has a text.** -/
theorem render_ne_empty (h : v.isKind kind = true) (hkind : kind ∈ changedKinds) :
    render v ≠ "" := by
  obtain ⟨fields, rfl⟩ := exists_fields_of_isNode (isNode_of_isKind h)
  refine render_ne_empty_of_layout fun pieces hpieces => ?_
  rw [layoutOf?_eq h] at hpieces
  exact layout?_begins hpieces hkind

end Node

end ComponentLookup
