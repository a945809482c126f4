/-!
# Splitting texts

A text falls into the parts between the places where a separator stands.  A text without the
separator is one part, and a separator at an end leaves an empty part there.
-/

namespace ComponentLookup.Text

/-- The parts of a text between separators. -/
def splitOn (separator : Char) : List Char → List (List Char)
  | [] => [[]]
  | c :: rest =>
    if c = separator then [] :: splitOn separator rest
    else
      match splitOn separator rest with
      | part :: parts => (c :: part) :: parts
      | [] => [[c]]

theorem splitOn_ne_nil (separator : Char) (text : List Char) : splitOn separator text ≠ [] := by
  fun_induction splitOn separator text <;> simp_all

/-- Putting the separator back between the parts gives the text. -/
theorem intercalate_splitOn (separator : Char) (text : List Char) :
    [separator].intercalate (splitOn separator text) = text := by
  induction text with
  | nil => rfl
  | cons c rest ih =>
    obtain ⟨part, parts, h⟩ := List.exists_cons_of_ne_nil (splitOn_ne_nil separator rest)
    rw [h] at ih
    by_cases hc : c = separator
    · subst hc
      cases parts <;> simp_all [splitOn, List.intercalate]
    · cases parts <;> simp_all [splitOn, List.intercalate]

end ComponentLookup.Text
