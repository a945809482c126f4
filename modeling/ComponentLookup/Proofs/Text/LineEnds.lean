import ComponentLookup.Text.Encoding

/-!
# Normalised line ends

A line may end with a line feed, a carriage return, or both.  `normalizeNewlines` makes a line feed
of each, and leaves everything else where it stood (`normalizeNewlines_eq_append_iff`).

It can be done before or after the characters of some class are dropped from the front, if the two
characters both belong to the class, or both do not (`dropWhile_normalizeNewlines`).
-/

namespace ComponentLookup

variable {text rest : List Char} {c : Char}

theorem normalizeNewlines_cons (hc : c ≠ '\r') (rest : List Char) :
    normalizeNewlines (c :: rest) = c :: normalizeNewlines rest := by
  rw [normalizeNewlines]
  · exact fun rest h => absurd h hc
  · exact hc

/-- A text is empty, or begins with a carriage return that becomes a line feed, or begins with a
character that stays. -/
theorem normalizeNewlines_cases (text : List Char) :
    text = [] ∨ (∃ rest rest', text = '\r' :: rest ∧ normalizeNewlines text = '\n' :: rest') ∨
      ∃ c rest, text = c :: rest ∧ c ≠ '\r' ∧
        normalizeNewlines text = c :: normalizeNewlines rest := by
  fun_cases normalizeNewlines text with
  | case1 rest => exact .inr (.inl ⟨_, _, rfl, rfl⟩)
  | case2 rest h => exact .inr (.inl ⟨_, _, rfl, rfl⟩)
  | case3 c rest h hc => exact .inr (.inr ⟨c, rest, rfl, hc, rfl⟩)
  | case4 => exact .inl rfl

theorem normalizeNewlines_eq_nil_iff : normalizeNewlines text = [] ↔ text = [] := by
  rcases normalizeNewlines_cases text with rfl | ⟨_, _, rfl, hN⟩ | ⟨_, _, rfl, -, hN⟩
  · simp [normalizeNewlines]
  · simp [hN]
  · simp [hN]

theorem length_normalizeNewlines_le (text : List Char) :
    (normalizeNewlines text).length ≤ text.length := by
  fun_induction normalizeNewlines text with
  | case1 rest ih => simp only [List.length_cons]; omega
  | case2 rest h ih => simp only [List.length_cons]; omega
  | case3 c rest h hc ih => simp only [List.length_cons]; omega
  | case4 => exact Nat.le_refl _

/-- Characters that are no line ends stand in a normalised text where they stood before. -/
theorem normalizeNewlines_eq_append_iff {word rest' : List Char}
    (hword : ∀ c ∈ word, c ≠ '\r' ∧ c ≠ '\n') :
    normalizeNewlines text = word ++ rest' ↔
      ∃ rest, text = word ++ rest ∧ rest' = normalizeNewlines rest := by
  induction word generalizing text with
  | nil => simp [eq_comm]
  | cons c word ih =>
    obtain ⟨⟨hr, hn⟩, hword⟩ := List.forall_mem_cons.1 hword
    rcases normalizeNewlines_cases text with rfl | ⟨_, _, rfl, hN⟩ | ⟨d, rest, rfl, -, hN⟩
    · simp [normalizeNewlines]
    · simp [hN, Ne.symm hr, Ne.symm hn]
    · simp only [hN, List.cons_append, List.cons.injEq, ih hword]
      constructor
      · rintro ⟨rfl, rest, rfl, rfl⟩
        exact ⟨rest, ⟨rfl, rfl⟩, rfl⟩
      · rintro ⟨rest, ⟨rfl, rfl⟩, rfl⟩
        exact ⟨rfl, rest, rfl, rfl⟩

variable {p : Char → Bool}

theorem dropWhile_normalizeNewlines (hp : p '\r' = p '\n') (text : List Char) :
    (normalizeNewlines text).dropWhile p = normalizeNewlines (text.dropWhile p) := by
  fun_induction normalizeNewlines text with
  | case1 rest ih => cases h : p '\n' <;> simp [h, hp, ih, normalizeNewlines]
  | case2 rest _ ih => cases h : p '\n' <;> simp [h, hp, ih, normalizeNewlines]
  | case3 c rest _ hc ih => cases h : p c <;> simp [h, ih, normalizeNewlines_cons hc]
  | case4 => rfl

theorem takeWhile_normalizeNewlines (hr : p '\r' = false) (hn : p '\n' = false)
    (text : List Char) : (normalizeNewlines text).takeWhile p = text.takeWhile p := by
  fun_induction normalizeNewlines text with
  | case1 rest => simp [hr, hn]
  | case2 rest => simp [hr, hn]
  | case3 c rest _ _ ih => simp only [List.takeWhile_cons, ih]
  | case4 => rfl

end ComponentLookup
