import ComponentLookup.Proofs.Json.Leaves
import ComponentLookup.Proofs.Json.Path

/-!
# What is written is read back

`Json.read_write` : **the reader gives back what was written**, on one line or with any indent, of a
value that repeats no field name and has in it no double and no integer of too many digits.

The proof goes through the value.  What is written of it at some depth can stand inside another text
(`Json.IsRead`): it begins with a character that is no blank and no closing bracket, and it is read
back whatever stands behind it, if only a number does not go on there (`Json.Ends`).  The items and
the fields of a container are read back one after another (`Json.items_itemsChars`,
`Json.fields_fieldsChars`), with the fuel that the reader spends on each value counted by its size.
-/

namespace ComponentLookup

/-- Fields with distinct names are taken as they come. -/
theorem Fields.putAll_eq_append {done fields : Fields}
    (h : ((done ++ fields).map Prod.fst).Nodup) : putAll done fields = done ++ fields := by
  induction fields generalizing done with
  | nil => exact (List.append_nil done).symm
  | cons field rest ih =>
    obtain ⟨key, v⟩ := field
    have happend := (List.append_assoc done [(key, v)] rest).symm
    have hrest := ih (happend ▸ h)
    rw [putAll, List.foldl_cons, put_of_notMem (notMem_of_nodup h)]
    exact hrest.trans happend.symm

namespace Json

/-! ### Blanks -/

variable {indent : Indent} {depth : Nat} {c : Char} {blanks text next rest : List Char}

theorem skipBlanks_append (h : ∀ c ∈ blanks, isBlank c = true) :
    skipBlanks (blanks ++ text) = skipBlanks text :=
  List.dropWhile_append_of_pos h

theorem skipBlanks_cons (h : isBlank c = false) : skipBlanks (c :: rest) = c :: rest := by
  simp [skipBlanks, h]

theorem isBlank_of_mem_lineBreak (h : c ∈ lineBreak indent depth) : isBlank c = true := by
  cases indent with
  | none => cases h
  | some n =>
    rcases List.mem_cons.1 h with rfl | h
    · rfl
    · rw [(List.mem_replicate.1 h).2]
      rfl

/-- A separator is a comma with blanks behind it. -/
theorem exists_separator_eq (indent : Indent) (depth : Nat) :
    ∃ blanks, separator indent depth = ',' :: blanks ∧ ∀ c ∈ blanks, isBlank c = true := by
  cases indent with
  | none =>
    refine ⟨[' '], rfl, fun c hc => ?_⟩
    rw [List.mem_singleton.1 hc]
    rfl
  | some n => exact ⟨lineBreak (some n) depth, rfl, fun c => isBlank_of_mem_lineBreak⟩

/-- In front of a closing bracket there is at most a line break. -/
theorem skipBlanks_lineBreak (h : isBlank c = false) :
    skipBlanks (lineBreak indent depth ++ c :: rest) = c :: rest := by
  rw [skipBlanks_append fun _ => isBlank_of_mem_lineBreak, skipBlanks_cons h]

/-! ### What can stand behind a number -/

theorem ends_cons (h : c.isDigit = false ∧ c ≠ '.' ∧ c ≠ 'e' ∧ c ≠ 'E') : Ends (c :: rest) := by
  intro d hd
  cases hd
  exact h

theorem ends_lineBreak (h : Ends rest) : Ends (lineBreak indent depth ++ rest) := by
  cases indent with
  | none => exact h
  | some n => exact ends_cons (by decide)

theorem ends_separator : Ends (separator indent depth ++ rest) := by
  obtain ⟨blanks, heq, -⟩ := exists_separator_eq indent depth
  rw [heq]
  exact ends_cons (by decide)

/-! ### Numbers that are left out -/

/-- The value is a double. -/
def IsDouble (v : Json) : Prop := ∃ x, v = .float x

instance : DecidablePred IsDouble
  | .float x => .isTrue ⟨x, rfl⟩
  | .null | .bool _ | .int _ | .str _ | .arr _ | .obj _ => .isFalse (by rintro ⟨_, h⟩; cases h)

/-- The value is an integer with more digits than the reader takes. -/
def IsLongInt (v : Json) : Prop := ∃ n, v = .int n ∧ IsLong n

instance : DecidablePred IsLongInt
  | .int n => decidable_of_iff (IsLong n)
      ⟨fun h => ⟨n, rfl, h⟩, by rintro ⟨_, hm, h⟩; cases hm; exact h⟩
  | .null | .bool _ | .float _ | .str _ | .arr _ | .obj _ =>
    .isFalse (by rintro ⟨_, h, -⟩; cases h)

/-! ### One value -/

theorem value_list (fuel : Nat) (hnext : skipBlanks text = next)
    (hne : ∀ rest, next ≠ ']' :: rest) :
    value (fuel + 1) ('[' :: text) =
      (Json.items fuel next).map fun read => (.arr read.1, read.2) := by
  rw [value, hnext]
  split
  · exact absurd rfl (hne _)
  · cases Json.items fuel next <;> rfl

theorem value_object (fuel : Nat) (hnext : skipBlanks text = next)
    (hne : ∀ rest, next ≠ '}' :: rest) :
    value (fuel + 1) ('{' :: text) =
      (fields fuel next).map fun read => (.obj (Fields.ofPairs read.1), read.2) := by
  rw [value, hnext]
  split
  · exact absurd rfl (hne _)
  · cases fields fuel next <;> rfl

theorem value_string (fuel : Nat) (s : String) (rest : List Char) :
    value (fuel + 1) (quotedChars s ++ rest) = .ok (.str s, rest) := by
  rw [quotedChars, List.cons_append, List.append_assoc, List.singleton_append, value,
    stringBody_quotedChars]
  rfl

theorem word?_of_isDigit (hc : c.isDigit = true) :
    word? (c :: text) = none ∧ word? ('-' :: c :: text) = none := by
  constructor <;> unfold word? <;> split <;> try rfl
  all_goals
    rename_i heq
    cases heq <;> cases hc

theorem value_number (fuel : Nat) (hc : c ≠ '"' ∧ c ≠ '[' ∧ c ≠ '{')
    (hword : word? (c :: text) = none) : value (fuel + 1) (c :: text) = number (c :: text) := by
  rw [value, hword]
  all_goals simp [hc]

theorem value_integer (fuel : Nat) {n : Int} (hn : ¬ IsLong n) (h : Ends rest) :
    value (fuel + 1) (integerChars n ++ rest) = .ok (.int n, rest) := by
  rw [← number_integerChars hn h]
  obtain ⟨d, ds, hdigits, hd⟩ := exists_toDigits_eq n.natAbs
  unfold integerChars
  rw [hdigits]
  split_ifs with hneg
  · exact value_number fuel (by decide) (word?_of_isDigit hd).2
  · refine value_number fuel ⟨?_, ?_, ?_⟩ (word?_of_isDigit hd).1 <;> (rintro rfl; cases hd)

/-! ### First characters -/

/-- The character can stand at the front of a value, in every container and at the front of a
text. -/
def IsFirst (c : Char) : Prop := isBlank c = false ∧ c ≠ ']' ∧ c ≠ '}' ∧ c ≠ '\uFEFF'

instance : DecidablePred IsFirst := fun _ => inferInstanceAs (Decidable (_ ∧ _))

theorem isFirst_of_isDigit (hc : c.isDigit = true) : IsFirst c := by
  have hblank : isBlank c = false := by
    simp only [isBlank, Bool.or_eq_false_iff, beq_eq_false_iff_ne, ne_eq]
    refine ⟨⟨⟨?_, ?_⟩, ?_⟩, ?_⟩ <;> (rintro rfl; cases hc)
  refine ⟨hblank, ?_, ?_, ?_⟩ <;> (rintro rfl; cases hc)

theorem exists_chars_eq (indent : Indent) (depth : Nat) {v : Json} (hv : ¬ IsDouble v) :
    ∃ c cs, chars indent depth v = c :: cs ∧ IsFirst c := by
  cases v with
  | null => exact ⟨'n', _, rfl, by decide⟩
  | bool b =>
    cases b
    · exact ⟨'f', _, rfl, by decide⟩
    · exact ⟨'t', _, rfl, by decide⟩
  | int n =>
    obtain ⟨d, ds, hdigits, hd⟩ := exists_toDigits_eq n.natAbs
    rw [chars, integerChars, hdigits]
    split_ifs
    · exact ⟨'-', _, rfl, by decide⟩
    · exact ⟨d, ds, rfl, isFirst_of_isDigit hd⟩
  | float x => exact absurd ⟨x, rfl⟩ hv
  | str s => exact ⟨'"', _, rfl, by decide⟩
  | arr items => cases items <;> exact ⟨'[', _, rfl, by decide⟩
  | obj fields => cases fields <;> exact ⟨'{', _, rfl, by decide⟩

/-! ### Items and fields -/

variable {v : Json} {key : String} {after : List Char} {fuel : Nat}

theorem items_last (hv : value fuel text = .ok (v, after)) (h : skipBlanks after = ']' :: rest) :
    Json.items (fuel + 1) text = .ok ([v], rest) := by
  rw [Json.items, hv]
  simp only [bind, Except.bind, h]

theorem items_more (hv : value fuel text = .ok (v, after)) (h : skipBlanks after = ',' :: rest) :
    Json.items (fuel + 1) text =
      (Json.items fuel (skipBlanks rest)).map fun read => (v :: read.1, read.2) := by
  rw [Json.items, hv]
  simp only [bind, Except.bind, h]
  cases Json.items fuel (skipBlanks rest) <;> rfl

theorem fields_last (hv : value fuel text = .ok (v, after)) (hfirst : skipBlanks text = text)
    (h : skipBlanks after = '}' :: rest) :
    fields (fuel + 1) (quotedChars key ++ ([':', ' '] ++ text)) = .ok ([(key, v)], rest) := by
  have hcolon : isBlank ':' = false := by decide
  have hblank : skipBlanks (' ' :: text) = text := hfirst
  rw [quotedChars, List.cons_append, List.append_assoc, List.singleton_append, fields,
    stringBody_quotedChars]
  simp only [bind, Except.bind, List.cons_append, List.nil_append, skipBlanks_cons hcolon, hblank,
    hv, h]

theorem fields_more (hv : value fuel text = .ok (v, after)) (hfirst : skipBlanks text = text)
    (h : skipBlanks after = ',' :: rest) :
    fields (fuel + 1) (quotedChars key ++ ([':', ' '] ++ text)) =
      (fields fuel (skipBlanks rest)).map fun read => ((key, v) :: read.1, read.2) := by
  have hcolon : isBlank ':' = false := by decide
  have hblank : skipBlanks (' ' :: text) = text := hfirst
  rw [quotedChars, List.cons_append, List.append_assoc, List.singleton_append, fields,
    stringBody_quotedChars]
  simp only [bind, Except.bind, List.cons_append, List.nil_append, skipBlanks_cons hcolon, hblank,
    hv, h]
  cases fields fuel (skipBlanks rest) <;> rfl

/-! ### Values inside others -/

/-- The value is read back from what is written of it at any depth, whatever stands behind it, if
only a number does not go on there. -/
structure IsRead (indent : Indent) (v : Json) : Prop where
  first (depth : Nat) : ∃ c cs, chars indent depth v = c :: cs ∧ IsFirst c
  size (depth : Nat) : v.size ≤ (chars indent depth v).length
  read (depth fuel : Nat) (rest : List Char) : 2 * v.size ≤ fuel → Ends rest →
    value fuel (chars indent depth v ++ rest) = .ok (v, rest)

theorem IsRead.skipBlanks (h : IsRead indent v) :
    skipBlanks (chars indent depth v ++ rest) = chars indent depth v ++ rest := by
  obtain ⟨c, cs, heq, hblank, -⟩ := h.first depth
  rw [heq, List.cons_append, skipBlanks_cons hblank]

theorem skipBlanks_quotedChars (key : String) (rest : List Char) :
    skipBlanks (quotedChars key ++ rest) = quotedChars key ++ rest :=
  skipBlanks_cons (by decide)

/-- Behind a separator the next item begins. -/
theorem skipBlanks_separator (indent : Indent) (depth : Nat) (h : skipBlanks text = text) :
    ∃ more, skipBlanks (separator indent depth ++ text) = ',' :: more ∧ skipBlanks more = text := by
  obtain ⟨blanks, hseparator, hblanks⟩ := exists_separator_eq indent depth
  refine ⟨blanks ++ text, ?_, ?_⟩
  · rw [hseparator, List.cons_append, skipBlanks_cons (by decide)]
  · rw [skipBlanks_append hblanks, h]

/-- The items of a list are read back, if each of them is. -/
theorem items_itemsChars {vs : List Json} (hread : ∀ w ∈ v :: vs, IsRead indent w) (outer : Nat)
    (hfuel : 2 * sizeItems (v :: vs) < fuel) :
    Json.items fuel (chars indent depth v ++ (itemsChars indent depth vs ++
      (lineBreak indent outer ++ ']' :: rest))) = .ok (v :: vs, rest) := by
  obtain ⟨fuel, rfl⟩ := Nat.exists_eq_succ_of_ne_zero (Nat.ne_of_gt (Nat.zero_lt_of_lt hfuel))
  -- two units of fuel for each value are enough for the list around it too
  induction vs generalizing v fuel with
  | nil =>
    have hends : Ends (lineBreak indent outer ++ ']' :: rest) :=
      ends_lineBreak (ends_cons (by decide))
    simp only [sizeItems] at hfuel
    exact items_last ((hread v List.mem_cons_self).read depth fuel _ (by omega) hends)
      (skipBlanks_lineBreak (by decide))
  | cons w vs ih =>
    obtain ⟨hv, hrest⟩ := List.forall_mem_cons.1 hread
    have hsize := one_le_size v
    simp only [sizeItems] at hfuel ih
    obtain ⟨fuel, rfl⟩ := Nat.exists_eq_succ_of_ne_zero (show fuel ≠ 0 by omega)
    let next := chars indent depth w ++
      (itemsChars indent depth vs ++ (lineBreak indent outer ++ ']' :: rest))
    have hblank : skipBlanks next = next := (hrest w List.mem_cons_self).skipBlanks
    obtain ⟨more, hmore, hnext⟩ := skipBlanks_separator indent depth hblank
    have hvalue :=
      hv.read depth (fuel + 1) (separator indent depth ++ next) (by omega) ends_separator
    rw [itemsChars, List.append_assoc, List.append_assoc, items_more hvalue hmore, hnext,
      ih hrest fuel (by omega)]
    rfl

/-- The fields of an object are read back, if the value of each of them is. -/
theorem fields_fieldsChars {fs : List (String × Json)}
    (hread : ∀ field ∈ (key, v) :: fs, IsRead indent field.2) (outer : Nat)
    (hfuel : 2 * sizeFields ((key, v) :: fs) < fuel) :
    fields fuel (quotedChars key ++ ([':', ' '] ++ (chars indent depth v ++
      (fieldsChars indent depth fs ++ (lineBreak indent outer ++ '}' :: rest))))) =
        .ok ((key, v) :: fs, rest) := by
  obtain ⟨fuel, rfl⟩ := Nat.exists_eq_succ_of_ne_zero (Nat.ne_of_gt (Nat.zero_lt_of_lt hfuel))
  induction fs generalizing key v fuel with
  | nil =>
    have hends : Ends (lineBreak indent outer ++ '}' :: rest) :=
      ends_lineBreak (ends_cons (by decide))
    have hv : IsRead indent v := hread (key, v) List.mem_cons_self
    simp only [sizeFields] at hfuel
    exact fields_last (hv.read depth fuel _ (by omega) hends) hv.skipBlanks
      (skipBlanks_lineBreak (by decide))
  | cons field fs ih =>
    obtain ⟨key', w⟩ := field
    have hv : IsRead indent v := hread (key, v) List.mem_cons_self
    have hrest := (List.forall_mem_cons.1 hread).2
    have hsize := one_le_size v
    simp only [sizeFields] at hfuel ih
    obtain ⟨fuel, rfl⟩ := Nat.exists_eq_succ_of_ne_zero (show fuel ≠ 0 by omega)
    let next := quotedChars key' ++ ([':', ' '] ++ (chars indent depth w ++
      (fieldsChars indent depth fs ++ (lineBreak indent outer ++ '}' :: rest))))
    have hblank : skipBlanks next = next := skipBlanks_quotedChars key' _
    obtain ⟨more, hmore, hnext⟩ := skipBlanks_separator indent depth hblank
    have hvalue :=
      hv.read depth (fuel + 1) (separator indent depth ++ next) (by omega) ends_separator
    simp only [fieldsChars, List.append_assoc]
    rw [fields_more hvalue hv.skipBlanks hmore, hnext, ih hrest fuel (by omega)]
    rfl

/-- The text of the items has a character for each value in them. -/
theorem sizeItems_le_length (depth : Nat) {vs : List Json} (h : ∀ v ∈ vs, IsRead indent v) :
    sizeItems vs ≤ (itemsChars indent depth vs).length := by
  induction vs with
  | nil => exact Nat.le_refl _
  | cons v vs ih =>
    obtain ⟨hv, hvs⟩ := List.forall_mem_cons.1 h
    have hsize := hv.size depth
    have hrest := ih hvs
    simp only [sizeItems, itemsChars, List.length_append]
    omega

theorem sizeFields_le_length (depth : Nat) {fs : List (String × Json)}
    (h : ∀ field ∈ fs, IsRead indent field.2) :
    sizeFields fs ≤ (fieldsChars indent depth fs).length := by
  induction fs with
  | nil => exact Nat.le_refl _
  | cons field fs ih =>
    obtain ⟨key, v⟩ := field
    have hv : IsRead indent v := h (key, v) List.mem_cons_self
    have hsize := hv.size depth
    have hrest := ih (List.forall_mem_cons.1 h).2
    simp only [sizeFields, fieldsChars, List.length_append]
    omega

/-! ### Values -/

theorem isRead_scalar (hi : v.items? = none) (hf : v.fields? = none) (hdouble : ¬ IsDouble v)
    (hlong : ¬ IsLongInt v) : IsRead indent v where
  first depth := exists_chars_eq indent depth hdouble
  size depth := by
    obtain ⟨c, cs, heq, -⟩ := exists_chars_eq indent depth hdouble
    have hsize : v.size = 1 := by
      cases v with
      | arr items => cases hi
      | obj fields => cases hf
      | _ => rfl
    rw [heq, hsize, List.length_cons]
    exact Nat.le_add_left 1 _
  read depth fuel rest hfuel h := by
    have hsize := one_le_size v
    obtain ⟨fuel, rfl⟩ := Nat.exists_eq_succ_of_ne_zero (show fuel ≠ 0 by omega)
    cases v with
    | null => rfl
    | bool b => cases b <;> rfl
    | int n => exact value_integer fuel (fun hn => hlong ⟨n, rfl, hn⟩) h
    | float x => exact absurd ⟨x, rfl⟩ hdouble
    | str s => exact value_string fuel s rest
    | arr items => cases hi
    | obj fields => cases hf

theorem isRead_arr {vs : List Json} (h : ∀ v ∈ vs, IsRead indent v) : IsRead indent (.arr vs) where
  first depth := exists_chars_eq indent depth (by rintro ⟨_, hx⟩; cases hx)
  size depth := by
    cases vs with
    | nil => exact Nat.le_succ 1
    | cons v vs =>
      have hv := (h v List.mem_cons_self).size (depth + 1)
      have hvs := sizeItems_le_length (depth + 1) (List.forall_mem_cons.1 h).2
      simp only [Json.size, sizeItems, chars, List.length_append, List.length_cons]
      omega
  read depth fuel rest hfuel hrest := by
    simp only [size] at hfuel
    obtain ⟨fuel, rfl⟩ := Nat.exists_eq_succ_of_ne_zero (show fuel ≠ 0 by omega)
    cases vs with
    | nil => rfl
    | cons v vs =>
      let next := chars indent (depth + 1) v ++ (itemsChars indent (depth + 1) vs ++
        (lineBreak indent depth ++ ']' :: rest))
      have hv := h v List.mem_cons_self
      have hchars : chars indent depth (.arr (v :: vs)) ++ rest =
          '[' :: (lineBreak indent (depth + 1) ++ next) := by
        simp only [chars, List.cons_append, List.append_assoc, List.nil_append, next]
      have hblank : skipBlanks (lineBreak indent (depth + 1) ++ next) = next :=
        (skipBlanks_append fun _ => isBlank_of_mem_lineBreak).trans hv.skipBlanks
      -- the first item is not taken for the end of the list
      have hne : ∀ rest, next ≠ ']' :: rest := by
        intro rest heq
        obtain ⟨c, cs, hc, -, hbracket, -⟩ := hv.first (depth + 1)
        simp only [next, hc, List.cons_append, List.cons.injEq] at heq
        exact hbracket heq.1
      have hitems : Json.items fuel next = .ok (v :: vs, rest) :=
        items_itemsChars h depth (by omega)
      rw [hchars, value_list fuel hblank hne, hitems]
      rfl

theorem isRead_obj {fs : Fields} (hn : (fs.map Prod.fst).Nodup)
    (h : ∀ field ∈ fs, IsRead indent field.2) : IsRead indent (.obj fs) where
  first depth := exists_chars_eq indent depth (by rintro ⟨_, hx⟩; cases hx)
  size depth := by
    cases fs with
    | nil => exact Nat.le_succ 1
    | cons field fs =>
      obtain ⟨key, v⟩ := field
      have hv : IsRead indent v := h (key, v) List.mem_cons_self
      have hsize := hv.size (depth + 1)
      have hfs := sizeFields_le_length (depth + 1) (List.forall_mem_cons.1 h).2
      simp only [Json.size, sizeFields, chars, List.length_append, List.length_cons]
      omega
  read depth fuel rest hfuel hrest := by
    simp only [size] at hfuel
    obtain ⟨fuel, rfl⟩ := Nat.exists_eq_succ_of_ne_zero (show fuel ≠ 0 by omega)
    cases fs with
    | nil => rfl
    | cons field fs =>
      obtain ⟨key, v⟩ := field
      let next := quotedChars key ++ ([':', ' '] ++ (chars indent (depth + 1) v ++
        (fieldsChars indent (depth + 1) fs ++ (lineBreak indent depth ++ '}' :: rest))))
      have hchars : chars indent depth (.obj ((key, v) :: fs)) ++ rest =
          '{' :: (lineBreak indent (depth + 1) ++ next) := by
        simp only [chars, List.cons_append, List.append_assoc, List.nil_append, next]
      have hblank : skipBlanks (lineBreak indent (depth + 1) ++ next) = next :=
        (skipBlanks_append fun _ => isBlank_of_mem_lineBreak).trans (skipBlanks_quotedChars key _)
      have hne : ∀ rest, next ≠ '}' :: rest := by
        intro rest heq
        simp [next, quotedChars] at heq
      have hfields : fields fuel next = .ok ((key, v) :: fs, rest) :=
        fields_fieldsChars h depth (by omega)
      rw [hchars, value_object fuel hblank hne, hfields, Except.map, Fields.ofPairs,
        Fields.putAll_eq_append hn, List.nil_append]

/-- Every value is read back that repeats no field name and has in it no double and no integer of
too many digits. -/
theorem isRead (indent : Indent) (hd : v.DistinctKeys) (hdouble : Without IsDouble v)
    (hlong : Without IsLongInt v) : IsRead indent v := by
  induction v using induct with
  | scalar v hi hf => exact isRead_scalar hi hf (hdouble [] v rfl) (hlong [] v rfl)
  | arr items ih =>
    exact isRead_arr fun v hv => ih v hv (hd.mem hv) (hdouble.mem hv) (hlong.mem hv)
  | obj fields ih =>
    refine isRead_obj hd.1 fun field hf => ?_
    have hget : (Json.obj fields).get? field.1 = some field.2 := Fields.get?_of_mem hd.1 hf
    exact ih field hf (hd.get? hget) (hdouble.get? hget) (hlong.get? hget)

/-- **What is written is read back**, on one line or with any indent. -/
theorem read_write (indent : Indent) (hd : v.DistinctKeys) (hdouble : Without IsDouble v)
    (hlong : Without IsLongInt v) : Json.read (v.write indent) = .ok v := by
  have hv := isRead indent hd hdouble hlong
  obtain ⟨c, cs, hchars, hblank, -, -, hmark⟩ := hv.first 0
  have hsize := hv.size 0
  have hvalue := hv.read 0 (2 * (chars indent 0 v).length + 2) [] (by omega)
    (fun _ hc => by cases hc)
  have hskip : skipBlanks (chars indent 0 v) = chars indent 0 v := by
    rw [hchars, skipBlanks_cons hblank]
  have hdocument : document (chars indent 0 v) = .ok v := by
    rw [List.append_nil] at hvalue
    rw [document, hskip, hvalue]
    rfl
  unfold Json.read write
  rw [String.toList_ofList]
  dsimp only
  split
  · -- no byte order mark stands in front
    rename_i heq
    rw [hchars] at heq
    exact absurd (List.cons.inj heq).1 hmark
  · rw [readChars, hdocument]
    rfl

end Json

end ComponentLookup
