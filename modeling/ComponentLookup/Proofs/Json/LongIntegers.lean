import ComponentLookup.Json.Display
import ComponentLookup.Proofs.StepFault
import ComponentLookup.Proofs.Json.Distinct
import ComponentLookup.Proofs.Json.Read

/-!
# Integers that are too long to be written

An integer with more digits than the reader takes has no text either, and a value that holds one
cannot be shown in a message or written.  `Json.quoted` and `Json.chars` write every integer; the
strict forms here fail at one that is too long.

* `Json.Strict.quoted_eq` and `Json.Strict.chars_eq` : **a value is written unless it holds a long
  integer** (`Json.hasLongInt`), wherever in it that stands.
* `Json.hasLongInt_eq_false_iff` : without repeated field names these are the values that no text
  holds, so that all that was read can be written.
-/

namespace ComponentLookup

namespace Json

mutual

/-- An integer in the value is too long; the values of repeated fields are looked at as well. -/
def hasLongInt : Json → Bool
  | .int n => decide (IsLong n)
  | .arr items => itemsHaveLongInt items
  | .obj fields => fieldsHaveLongInt fields
  | _ => false

/-- An integer in an item is too long. -/
def itemsHaveLongInt : List Json → Bool
  | [] => false
  | v :: rest => hasLongInt v || itemsHaveLongInt rest

/-- An integer in a field is too long. -/
def fieldsHaveLongInt : List (String × Json) → Bool
  | [] => false
  | (_, v) :: rest => hasLongInt v || fieldsHaveLongInt rest

end

/-! ### Strict writing -/

namespace Strict

/-- The digits of an integer that is not too long. -/
def integer (n : Int) : Except StepFault (List Char) :=
  if IsLong n then .error .longInteger else .ok (integerChars n)

mutual

/-- A value with its texts quoted. -/
def quoted : Json → Except StepFault String
  | .int n => do return String.ofList (← integer n)
  | .arr items => do return "[" ++ ", ".intercalate (← quotedItems items) ++ "]"
  | .obj fields => do return "\x7b" ++ ", ".intercalate (← quotedFields fields) ++ "\x7d"
  | v => .ok v.quoted

/-- The items of a list, each with its texts quoted. -/
def quotedItems : List Json → Except StepFault (List String)
  | [] => .ok []
  | v :: rest => do return (← quoted v) :: (← quotedItems rest)

/-- The fields of an object, each with its texts quoted. -/
def quotedFields : List (String × Json) → Except StepFault (List String)
  | [] => .ok []
  | (k, v) :: rest => do
    return (Text.quote k ++ ": " ++ (← quoted v)) :: (← quotedFields rest)

end

/-- A value as a message shows it. -/
def display : Json → Except StepFault String
  | .str s => .ok s
  | v => quoted v

mutual

/-- The characters of a value whose items stand one level below `depth`. -/
def chars (indent : Indent) (depth : Nat) : Json → Except StepFault (List Char)
  | .int n => integer n
  | .arr (v :: rest) => do
    return '[' :: lineBreak indent (depth + 1) ++ (← chars indent (depth + 1) v) ++
      (← itemsChars indent (depth + 1) rest) ++ lineBreak indent depth ++ [']']
  | .obj ((key, v) :: rest) => do
    return '{' :: lineBreak indent (depth + 1) ++ quotedChars key ++ [':', ' '] ++
      (← chars indent (depth + 1) v) ++ (← fieldsChars indent (depth + 1) rest) ++
      lineBreak indent depth ++ ['}']
  | v => .ok (v.chars indent depth)

/-- The items after the first one, each behind a separator. -/
def itemsChars (indent : Indent) (depth : Nat) : List Json → Except StepFault (List Char)
  | [] => .ok []
  | v :: rest => do
    return separator indent depth ++ (← chars indent depth v) ++ (← itemsChars indent depth rest)

/-- The fields after the first one, each behind a separator. -/
def fieldsChars (indent : Indent) (depth : Nat) :
    List (String × Json) → Except StepFault (List Char)
  | [] => .ok []
  | (key, v) :: rest => do
    return separator indent depth ++ quotedChars key ++ [':', ' '] ++ (← chars indent depth v) ++
      (← fieldsChars indent depth rest)

end

/-- The text of a value. -/
def write (indent : Indent) (v : Json) : Except StepFault String := do
  return String.ofList (← chars indent 0 v)

/-- What comes of something that has a text unless a long integer is met. -/
def written {α : Type} (long : Bool) (a : α) : Except StepFault α :=
  if long then .error .longInteger else .ok a

section

variable {α β γ : Type}

theorem map_written (long : Bool) (a : α) (f : α → β) :
    (do return f (← written long a)) = written long (f a) := by
  cases long <;> rfl

theorem map₂_written (long long' : Bool) (a : α) (b : β) (f : α → β → γ) :
    (do return f (← written long a) (← written long' b)) =
      written (long || long') (f a b) := by
  cases long <;> cases long' <;> rfl

end

theorem integer_eq (n : Int) : integer n = written (decide (IsLong n)) (integerChars n) := by
  unfold integer written
  simp only [decide_eq_true_eq]

mutual

/-- **A value is shown unless it holds a long integer.** -/
theorem quoted_eq : ∀ v : Json, quoted v = written v.hasLongInt v.quoted
  | .int n => by rw [quoted, integer_eq, map_written, hasLongInt, Json.quoted]
  | .arr items => by
    rw [quoted, quotedItems_eq items, hasLongInt, Json.quoted]
    exact map_written _ _ fun rows => "[" ++ ", ".intercalate rows ++ "]"
  | .obj fields => by
    rw [quoted, quotedFields_eq fields, hasLongInt, Json.quoted]
    exact map_written _ _ fun rows => "\x7b" ++ ", ".intercalate rows ++ "\x7d"
  | .null | .bool _ | .float _ | .str _ => by simp [quoted, hasLongInt, written]

theorem quotedItems_eq : ∀ items : List Json,
    quotedItems items = written (itemsHaveLongInt items) (Json.quotedItems items)
  | [] => rfl
  | v :: rest => by
    rw [quotedItems, quoted_eq v, quotedItems_eq rest, map₂_written, itemsHaveLongInt,
      Json.quotedItems]

theorem quotedFields_eq : ∀ fields : List (String × Json),
    quotedFields fields = written (fieldsHaveLongInt fields) (Json.quotedFields fields)
  | [] => rfl
  | (k, v) :: rest => by
    rw [quotedFields, quoted_eq v, quotedFields_eq rest, fieldsHaveLongInt, Json.quotedFields]
    exact map₂_written _ _ _ _ fun s rows => (Text.quote k ++ ": " ++ s) :: rows

end

theorem display_eq (v : Json) : display v = written v.hasLongInt v.display := by
  cases v with
  | str s => simp [display, Json.display, hasLongInt, written]
  | _ => exact quoted_eq _

mutual

/-- **A value is written unless it holds a long integer.** -/
theorem chars_eq (indent : Indent) : ∀ (v : Json) (depth : Nat),
    chars indent depth v = written v.hasLongInt (v.chars indent depth)
  | .int n, depth => by rw [chars, integer_eq, hasLongInt, Json.chars]
  | .arr (v :: rest), depth => by
    rw [chars, chars_eq indent v, itemsChars_eq indent rest, hasLongInt, itemsHaveLongInt,
      Json.chars]
    exact map₂_written _ _ _ _ fun first others =>
      '[' :: lineBreak indent (depth + 1) ++ first ++ others ++ lineBreak indent depth ++ [']']
  | .obj ((key, v) :: rest), depth => by
    rw [chars, chars_eq indent v, fieldsChars_eq indent rest, hasLongInt, fieldsHaveLongInt,
      Json.chars]
    exact map₂_written _ _ _ _ fun first others =>
      '{' :: lineBreak indent (depth + 1) ++ quotedChars key ++ [':', ' '] ++ first ++ others ++
        lineBreak indent depth ++ ['}']
  | .null, _ | .bool _, _ | .float _, _ | .str _, _ | .arr [], _ | .obj [], _ => by
    simp [chars, hasLongInt, itemsHaveLongInt, fieldsHaveLongInt, written]

theorem itemsChars_eq (indent : Indent) : ∀ (items : List Json) (depth : Nat),
    itemsChars indent depth items =
      written (itemsHaveLongInt items) (Json.itemsChars indent depth items)
  | [], _ => rfl
  | v :: rest, depth => by
    rw [itemsChars, chars_eq indent v, itemsChars_eq indent rest, itemsHaveLongInt,
      Json.itemsChars]
    exact map₂_written _ _ _ _ fun first others => separator indent depth ++ first ++ others

theorem fieldsChars_eq (indent : Indent) : ∀ (fields : List (String × Json)) (depth : Nat),
    fieldsChars indent depth fields =
      written (fieldsHaveLongInt fields) (Json.fieldsChars indent depth fields)
  | [], _ => rfl
  | (key, v) :: rest, depth => by
    rw [fieldsChars, chars_eq indent v, fieldsChars_eq indent rest, fieldsHaveLongInt,
      Json.fieldsChars]
    exact map₂_written _ _ _ _ fun first others =>
      separator indent depth ++ quotedChars key ++ [':', ' '] ++ first ++ others

end

theorem write_eq (indent : Indent) (v : Json) :
    write indent v = written v.hasLongInt (v.write indent) := by
  rw [write, chars_eq, map_written]
  rfl

end Strict

/-! ### Values that can be read -/

theorem itemsHaveLongInt_eq_false_iff {items : List Json} :
    itemsHaveLongInt items = false ↔ ∀ v ∈ items, v.hasLongInt = false := by
  induction items with
  | nil => simp [itemsHaveLongInt]
  | cons v rest ih => simp [itemsHaveLongInt, ih]

theorem fieldsHaveLongInt_eq_false_iff {fields : Fields} :
    fieldsHaveLongInt fields = false ↔ ∀ field ∈ fields, field.2.hasLongInt = false := by
  induction fields with
  | nil => simp [fieldsHaveLongInt]
  | cons field rest ih => simp [fieldsHaveLongInt, ih]

/-- **Without repeated names the values that can be written are those that can be read.** -/
theorem hasLongInt_eq_false_iff {v : Json} (hd : v.DistinctKeys) :
    v.hasLongInt = false ↔ v.Readable := by
  induction hn : v.size using Nat.strongRecOn generalizing v with
  | ind n ih =>
    subst hn
    cases v with
    | int n =>
      rw [hasLongInt, decide_eq_false_iff_not]
      constructor
      · intro hshort
        refine ⟨trivial, without_leaf rfl rfl ?_⟩
        rintro ⟨_, heq, hlong⟩
        cases heq
        exact hshort hlong
      · exact fun h hlong => h.2 [] _ rfl ⟨n, rfl, hlong⟩
    | arr items =>
      rw [hasLongInt, itemsHaveLongInt_eq_false_iff, hereditary_readable.arr_iff]
      refine forall₂_congr fun v hv => ih _ ?_ (hereditary_distinctKeys.mem hd hv) rfl
      have := size_mem_items hv
      rw [size]
      omega
    | obj fields =>
      obtain ⟨hnodup, hfields⟩ := hereditary_distinctKeys.obj_iff.1 hd
      rw [hasLongInt, fieldsHaveLongInt_eq_false_iff, hereditary_readable.obj_iff,
        and_iff_right hnodup]
      refine forall₂_congr fun field hf => ih _ ?_ (hfields field hf) rfl
      have := sizeFields_get? (Fields.get?_of_mem hnodup hf)
      rw [size]
      omega
    | null | bool | float | str =>
      refine iff_of_true rfl ⟨trivial, without_leaf rfl rfl ?_⟩
      rintro ⟨_, heq, -⟩
      cases heq

theorem Readable.hasLongInt {v : Json} (h : v.Readable) : v.hasLongInt = false :=
  (hasLongInt_eq_false_iff h.1).2 h

namespace Strict

theorem unlessLong_written {α : Type} (v : Json) (a : α) :
    UnlessLong v.Readable (written v.hasLongInt a) (.ok a) := by
  cases hlong : v.hasLongInt with
  | false => exact .ok a
  | true => exact .stop (by simp) fun h => Bool.false_ne_true (h.hasLongInt.symm.trans hlong)

/-- A value that can be read has its text in a message. -/
theorem unlessLong_display (v : Json) :
    UnlessLong v.Readable (display v) (.ok v.display) := by
  rw [display_eq]
  exact unlessLong_written v v.display

/-- **What has no text in a message** is what holds a long integer. -/
theorem display_eq_error_iff {v : Json} (hd : v.DistinctKeys) {fault : StepFault} :
    display v = .error fault ↔ fault = .longInteger ∧ ¬ v.Readable := by
  rw [display_eq, written, ← hasLongInt_eq_false_iff hd, Bool.not_eq_false]
  split_ifs with hlong
  · exact ⟨fun h => ⟨(Except.error.inj h).symm, hlong⟩, fun ⟨heq, _⟩ => heq ▸ rfl⟩
  · exact iff_of_false (by simp) fun h => hlong h.2

theorem unlessLong_write (indent : Indent) (v : Json) :
    UnlessLong v.Readable (write indent v) (.ok (v.write indent)) := by
  rw [write_eq]
  exact unlessLong_written v (v.write indent)

end Strict

end Json

end ComponentLookup
