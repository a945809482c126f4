import ComponentLookup.Proofs.Json.Read

/-!
# The fuel of the reader

The reader recurses on fuel that it takes from the length of the text.  Every part of it leaves an
end of the text that it was given (`Json.LeavesEnd`), so that the nested calls have shorter and
shorter texts.

* `Json.leavesEnd_value` : a value leaves an end of its text.
* `Json.stringTail_fuel`, `Json.value_fuel` : **more fuel than is handed out changes nothing**.
-/

namespace ComponentLookup.Json

variable {α β : Type} {text text' rest : List Char} {fuel fuel' : Nat}

/-! ### What is left -/

/-- What a reader leaves is an end of the text. -/
def LeavesEnd (text : List Char) (read : Except Fault (α × List Char)) : Prop :=
  ∀ a rest, read = .ok (a, rest) → rest <:+ text

namespace LeavesEnd

theorem error (e : Fault) : LeavesEnd text (.error e : Except Fault (α × List Char)) := by
  intro a rest h
  cases h

theorem ok (a : α) (h : rest <:+ text) : LeavesEnd text (.ok (a, rest)) := by
  intro a rest heq
  cases heq
  exact h

theorem mono {read : Except Fault (α × List Char)} (h : LeavesEnd text' read)
    (htext : text' <:+ text) : LeavesEnd text read :=
  fun a rest heq => (h a rest heq).trans htext

theorem bind {read : Except Fault (α × List Char)}
    {next : α × List Char → Except Fault (β × List Char)} (h : LeavesEnd text read)
    (hnext : ∀ a rest, rest <:+ text → LeavesEnd text (next (a, rest))) :
    LeavesEnd text (read >>= next) := by
  intro b rest heq
  obtain ⟨⟨a, after⟩, hread, heq⟩ := exists_ok_of_bind heq
  exact hnext a after (h a after hread) b rest heq

end LeavesEnd

theorem skipBlanks_suffix (text : List Char) : skipBlanks text <:+ text :=
  List.dropWhile_suffix _

theorem suffix_of_skipBlanks {c : Char} (h : skipBlanks text = c :: rest) : rest <:+ text :=
  (List.suffix_cons c rest).trans (h ▸ skipBlanks_suffix text)

/-- A value behind a bracket, comma or colon begins behind the blanks that follow it. -/
theorem skipBlanks_suffix_of_skipBlanks {c : Char} (h : skipBlanks text = c :: rest) :
    skipBlanks rest <:+ text :=
  (skipBlanks_suffix rest).trans (suffix_of_skipBlanks h)

/-! #### Strings -/

theorem suffix_of_unit? {n : Nat} (h : unit? text = some (n, rest)) : rest <:+ text := by
  unfold unit? at h
  split at h
  · simp only [Option.bind_eq_bind, Option.bind_eq_some_iff, Option.pure_def,
      Option.some.injEq, Prod.mk.injEq] at h
    obtain ⟨_, -, _, -, _, -, _, -, -, rfl⟩ := h
    exact ⟨[_, _, _, _], rfl⟩
  · cases h

theorem leavesEnd_escapedUnit (text : List Char) : LeavesEnd text (escapedUnit text) := by
  unfold escapedUnit
  split
  · rename_i h
    exact .ok _ (suffix_of_unit? h)
  · exact .error _

theorem leavesEnd_unicodeEscape (text : List Char) : LeavesEnd text (unicodeEscape text) := by
  refine (leavesEnd_escapedUnit text).bind fun high rest hrest => ?_
  have hlone : LeavesEnd text (.ok (unitChar high, rest) : Except Fault (Char × List Char)) :=
    .ok _ hrest
  dsimp only
  split
  · split
    · rename_i more
      have hmore : more <:+ text := .trans ⟨['\\', 'u'], rfl⟩ hrest
      split
      · exact hlone
      · refine ((leavesEnd_escapedUnit more).mono hmore).bind fun low rest' hrest' => ?_
        dsimp only
        split
        · exact .ok _ hrest'
        · exact hlone
    · exact hlone
  · exact hlone

theorem leavesEnd_stringTail (opening fuel : Nat) (text : List Char) :
    LeavesEnd text (stringTail opening fuel text) := by
  induction fuel generalizing text with
  | zero => exact .error _
  | succ fuel ih =>
    unfold stringTail
    split
    · exact .error _
    · exact .ok _ (List.suffix_cons _ _)
    · exact .error _
    · rename_i afterU
      refine ((leavesEnd_unicodeEscape afterU).mono ⟨['\\', 'u'], rfl⟩).bind fun c rest hrest => ?_
      exact ((ih rest).mono hrest).bind fun _ _ => .ok _
    · rename_i letter rest _
      split
      · exact .error _
      · exact ((ih rest).mono ⟨['\\', letter], rfl⟩).bind fun _ _ => .ok _
    · rename_i rest _ _ _ _
      split
      · exact .error _
      · exact ((ih rest).mono (List.suffix_cons _ _)).bind fun _ _ => .ok _

theorem leavesEnd_stringBody (text : List Char) : LeavesEnd text (stringBody text) :=
  (leavesEnd_stringTail _ _ text).bind fun _ _ hrest => .ok _ hrest

/-! #### Numbers and words -/

theorem fractionDigits_suffix (text : List Char) : (fractionDigits text).2 <:+ text := by
  unfold fractionDigits
  split
  · split
    · exact List.suffix_refl _
    · exact (List.dropWhile_suffix _).trans (List.suffix_cons _ _)
  · exact List.suffix_refl _

theorem integerDigits_suffix (text : List Char) : (integerDigits text).2 <:+ text := by
  unfold integerDigits
  split
  · exact List.suffix_cons _ _
  · exact List.dropWhile_suffix _

/-- The sign of an exponent, and what stands behind it. -/
def exponentSign : List Char → Bool × List Char
  | '-' :: rest => (true, rest)
  | '+' :: rest => (false, rest)
  | text => (false, text)

theorem exponentSign_suffix (text : List Char) : (exponentSign text).2 <:+ text := by
  unfold exponentSign
  split
  · exact List.suffix_cons _ _
  · exact List.suffix_cons _ _
  · exact List.suffix_refl _

theorem exponent?_cons {mark : Char} (h : mark = 'e' ∨ mark = 'E') (text : List Char) :
    exponent? (mark :: text) =
      match (exponentSign text).2.takeWhile Char.isDigit with
      | [] => none
      | ds => some (if (exponentSign text).1 then -(digitsValue ds : Int) else digitsValue ds,
          (exponentSign text).2.dropWhile Char.isDigit) := by
  unfold exponent?
  exact if_pos h

theorem exponent?_of_not_mark {mark : Char} (h : ¬ (mark = 'e' ∨ mark = 'E')) (text : List Char) :
    exponent? (mark :: text) = none := by
  unfold exponent?
  exact if_neg h

theorem suffix_of_exponent? {e : Int} (h : exponent? text = some (e, rest)) : rest <:+ text := by
  cases text with
  | nil => cases h
  | cons mark text =>
    by_cases hmark : mark = 'e' ∨ mark = 'E'
    · rw [exponent?_cons hmark] at h
      split at h
      · cases h
      · cases h
        exact (List.dropWhile_suffix _).trans
          ((exponentSign_suffix text).trans (List.suffix_cons _ _))
    · rw [exponent?_of_not_mark hmark] at h
      cases h

theorem leavesEnd_unsignedNumber (negative : Bool) (start text : List Char) :
    LeavesEnd text (unsignedNumber negative start text) := by
  unfold unsignedNumber
  split
  · exact .error _
  · rename_i whole rest _ hwhole
    have hrest : rest <:+ text := by
      have := integerDigits_suffix text
      rwa [hwhole] at this
    have hfraction := (fractionDigits_suffix rest).trans hrest
    dsimp only
    split
    · rename_i hexponent
      exact .ok _ ((suffix_of_exponent? hexponent).trans hfraction)
    · split
      · split
        · exact .error _
        · exact .ok _ hfraction
      · exact .ok _ hfraction

theorem leavesEnd_number (text : List Char) : LeavesEnd text (number text) := by
  unfold number
  split
  · exact (leavesEnd_unsignedNumber _ _ _).mono (List.suffix_cons _ _)
  · exact leavesEnd_unsignedNumber _ _ _

/-- The words with the values that they stand for. -/
def words : List (List Char × Json) :=
  [(['n', 'u', 'l', 'l'], .null), (['t', 'r', 'u', 'e'], .bool true),
    (['f', 'a', 'l', 's', 'e'], .bool false), (['N', 'a', 'N'], .float .nan),
    (['I', 'n', 'f', 'i', 'n', 'i', 't', 'y'], .float (.infinity false)),
    (['-', 'I', 'n', 'f', 'i', 'n', 'i', 't', 'y'], .float (.infinity true))]

theorem word?_eq_some_iff {v : Json} :
    word? text = some (v, rest) ↔ ∃ word, (word, v) ∈ words ∧ text = word ++ rest := by
  constructor
  · intro h
    unfold word? at h
    split at h <;> cases h
    · exact ⟨['n', 'u', 'l', 'l'], by simp [words], rfl⟩
    · exact ⟨['t', 'r', 'u', 'e'], by simp [words], rfl⟩
    · exact ⟨['f', 'a', 'l', 's', 'e'], by simp [words], rfl⟩
    · exact ⟨['N', 'a', 'N'], by simp [words], rfl⟩
    · exact ⟨['I', 'n', 'f', 'i', 'n', 'i', 't', 'y'], by simp [words], rfl⟩
    · exact ⟨['-', 'I', 'n', 'f', 'i', 'n', 'i', 't', 'y'], by simp [words], rfl⟩
  · rintro ⟨word, hword, rfl⟩
    simp only [words, List.mem_cons, Prod.mk.injEq, List.not_mem_nil, or_false] at hword
    rcases hword with ⟨rfl, rfl⟩ | ⟨rfl, rfl⟩ | ⟨rfl, rfl⟩ | ⟨rfl, rfl⟩ | ⟨rfl, rfl⟩ | ⟨rfl, rfl⟩ <;>
      rfl

/-! #### Values -/

/-- What is left behind values, items and fields with so much fuel. -/
structure ValuesLeaveEnd (fuel : Nat) : Prop where
  value (text : List Char) : LeavesEnd text (value fuel text)
  items (text : List Char) : LeavesEnd text (items fuel text)
  fields (text : List Char) : LeavesEnd text (fields fuel text)

theorem leavesEnd_value_succ (ih : ValuesLeaveEnd fuel) (text : List Char) :
    LeavesEnd text (value (fuel + 1) text) := by
  have hcontainer : ∀ {opening : Char} {text : List Char},
      skipBlanks text <:+ opening :: text := fun {opening text} =>
    (skipBlanks_suffix text).trans (List.suffix_cons opening text)
  unfold value
  split
  · rename_i rest
    exact ((leavesEnd_stringBody rest).mono (List.suffix_cons _ _)).bind fun _ _ => .ok _
  · split
    · rename_i h
      exact .ok _ ((suffix_of_skipBlanks h).trans (List.suffix_cons _ _))
    · exact ((ih.items _).mono hcontainer).bind fun _ _ => .ok _
  · split
    · rename_i h
      exact .ok _ ((suffix_of_skipBlanks h).trans (List.suffix_cons _ _))
    · exact ((ih.fields _).mono hcontainer).bind fun _ _ => .ok _
  · split
    · rename_i hword
      obtain ⟨word, -, rfl⟩ := word?_eq_some_iff.1 hword
      exact .ok _ (List.suffix_append _ _)
    · exact leavesEnd_number _

theorem leavesEnd_items_succ (ih : ValuesLeaveEnd fuel) (text : List Char) :
    LeavesEnd text (items (fuel + 1) text) := by
  unfold items
  refine (ih.value text).bind fun v rest hrest => ?_
  dsimp only
  split
  · rename_i h
    exact .ok _ ((suffix_of_skipBlanks h).trans hrest)
  · rename_i h
    have hnext := (skipBlanks_suffix_of_skipBlanks h).trans hrest
    exact ((ih.items _).mono hnext).bind fun _ _ => .ok _
  · exact .error _

theorem leavesEnd_fields_succ (ih : ValuesLeaveEnd fuel) (text : List Char) :
    LeavesEnd text (fields (fuel + 1) text) := by
  unfold fields
  split
  · rename_i text
    refine ((leavesEnd_stringBody text).mono (List.suffix_cons _ _)).bind fun key after hafter => ?_
    dsimp only
    split
    · rename_i h
      have hvalue := (skipBlanks_suffix_of_skipBlanks h).trans hafter
      refine ((ih.value _).mono hvalue).bind fun v rest hrest => ?_
      dsimp only
      split
      · rename_i h
        exact .ok _ ((suffix_of_skipBlanks h).trans hrest)
      · rename_i h
        have hnext := (skipBlanks_suffix_of_skipBlanks h).trans hrest
        exact ((ih.fields _).mono hnext).bind fun _ _ => .ok _
      · exact .error _
    · exact .error _
  · exact .error _

/-- **The reader leaves an end of the text.** -/
theorem valuesLeaveEnd (fuel : Nat) : ValuesLeaveEnd fuel := by
  induction fuel with
  | zero => exact ⟨fun _ => .error _, fun _ => .error _, fun _ => .error _⟩
  | succ fuel ih =>
    exact ⟨leavesEnd_value_succ ih, leavesEnd_items_succ ih, leavesEnd_fields_succ ih⟩

/-! ### More fuel -/

theorem bind_congr_of_ok {x : Except Fault α} {f g : α → Except Fault β}
    (h : ∀ a, x = .ok a → f a = g a) : x >>= f = x >>= g := by
  cases x with
  | error e => rfl
  | ok a => exact h a rfl

/-- A string is read with any fuel beyond the length of the text. -/
theorem stringTail_fuel (opening : Nat) (h : text.length < fuel) (h' : text.length < fuel') :
    stringTail opening fuel text = stringTail opening fuel' text := by
  induction fuel generalizing fuel' text with
  | zero => cases h
  | succ fuel ih =>
    obtain ⟨fuel', rfl⟩ : ∃ n, fuel' = n + 1 := ⟨fuel' - 1, by omega⟩
    have hnext : ∀ rest : List Char, rest.length < text.length →
        stringTail opening fuel rest = stringTail opening fuel' rest :=
      fun rest hrest => ih (by omega) (by omega)
    unfold stringTail
    split
    · rfl
    · rfl
    · rfl
    · rename_i afterU
      refine bind_congr_of_ok fun read hescape => ?_
      obtain ⟨c, rest⟩ := read
      have hrest := (leavesEnd_unicodeEscape afterU _ _ hescape).length_le
      dsimp only
      rw [hnext rest (by simp only [List.length_cons]; omega)]
    · split
      · rfl
      · rw [hnext _ (by simp only [List.length_cons]; omega)]
    · split
      · rfl
      · rw [hnext _ (by simp only [List.length_cons]; omega)]

/-- Two amounts of fuel give the same for all texts for which both are enough.  A list of items
takes one unit more than its first item, and each bracket, comma and name is a character. -/
structure SameFuel (fuel fuel' : Nat) : Prop where
  value (text : List Char) : 2 * text.length < fuel → 2 * text.length < fuel' →
    value fuel text = value fuel' text
  items (text : List Char) : 2 * text.length + 1 < fuel → 2 * text.length + 1 < fuel' →
    items fuel text = items fuel' text
  fields (text : List Char) : 2 * text.length + 1 < fuel → 2 * text.length + 1 < fuel' →
    fields fuel text = fields fuel' text

theorem length_skipBlanks_le (text : List Char) : (skipBlanks text).length ≤ text.length :=
  (skipBlanks_suffix text).length_le

theorem length_lt_of_skipBlanks {c : Char} (h : skipBlanks text = c :: rest) :
    rest.length < text.length := by
  have := length_skipBlanks_le text
  rw [h, List.length_cons] at this
  omega

theorem value_succ_fuel (ih : SameFuel fuel fuel') (h : 2 * text.length < fuel + 1)
    (h' : 2 * text.length < fuel' + 1) : value (fuel + 1) text = value (fuel' + 1) text := by
  unfold value
  split
  · rfl
  -- the opening bracket counts twice: for this call, and for the unit that a list takes more
  · rename_i rest
    have hrest := length_skipBlanks_le rest
    simp only [List.length_cons] at h h'
    split
    · rfl
    · rw [ih.items _ (by omega) (by omega)]
  · rename_i rest
    have hrest := length_skipBlanks_le rest
    simp only [List.length_cons] at h h'
    split
    · rfl
    · rw [ih.fields _ (by omega) (by omega)]
  · rfl

theorem items_succ_fuel (ih : SameFuel fuel fuel') (h : 2 * text.length + 1 < fuel + 1)
    (h' : 2 * text.length + 1 < fuel' + 1) : items (fuel + 1) text = items (fuel' + 1) text := by
  unfold items
  rw [ih.value text (by omega) (by omega)]
  -- how much is left is known only if there is a first item
  refine bind_congr_of_ok fun read hvalue => ?_
  obtain ⟨v, after⟩ := read
  have hafter := ((valuesLeaveEnd fuel').value text v after hvalue).length_le
  dsimp only
  split
  · rfl
  · rename_i rest hcomma
    have hrest := length_lt_of_skipBlanks hcomma
    have hnext := length_skipBlanks_le rest
    rw [ih.items _ (by omega) (by omega)]
  · rfl

theorem fields_succ_fuel (ih : SameFuel fuel fuel') (h : 2 * text.length + 1 < fuel + 1)
    (h' : 2 * text.length + 1 < fuel' + 1) : fields (fuel + 1) text = fields (fuel' + 1) text := by
  unfold fields
  split
  · rename_i text
    refine bind_congr_of_ok fun read hkey => ?_
    obtain ⟨key, afterKey⟩ := read
    have hafterKey := (leavesEnd_stringBody text key afterKey hkey).length_le
    simp only [List.length_cons] at h h'
    dsimp only
    split
    · rename_i rest hcolon
      have hrest := length_lt_of_skipBlanks hcolon
      have hvalue := length_skipBlanks_le rest
      rw [ih.value _ (by omega) (by omega)]
      refine bind_congr_of_ok fun read hread => ?_
      obtain ⟨v, after⟩ := read
      have hafter := ((valuesLeaveEnd fuel').value _ v after hread).length_le
      dsimp only
      split
      · rfl
      · rename_i rest hcomma
        have hrest := length_lt_of_skipBlanks hcomma
        have hnext := length_skipBlanks_le rest
        rw [ih.fields _ (by omega) (by omega)]
      · rfl
    · rfl
  · rfl

theorem sameFuel (fuel fuel' : Nat) : SameFuel fuel fuel' := by
  induction fuel generalizing fuel' with
  | zero =>
    refine ⟨fun _ h _ => ?_, fun _ h _ => ?_, fun _ h _ => ?_⟩ <;> omega
  | succ fuel ih =>
    cases fuel' with
    | zero => refine ⟨fun _ _ h => ?_, fun _ _ h => ?_, fun _ _ h => ?_⟩ <;> omega
    | succ fuel' =>
      exact ⟨fun _ => value_succ_fuel (ih fuel'), fun _ => items_succ_fuel (ih fuel'),
        fun _ => fields_succ_fuel (ih fuel')⟩

/-- **A value is read with any fuel beyond twice the length of the text.** -/
theorem value_fuel (h : 2 * text.length < fuel) (h' : 2 * text.length < fuel') :
    value fuel text = value fuel' text :=
  (sameFuel fuel fuel').value text h h'

end ComponentLookup.Json
