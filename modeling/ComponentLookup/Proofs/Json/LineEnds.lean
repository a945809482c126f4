import ComponentLookup.Proofs.Json.LeafLineEnds

/-!
# Line ends in JSON

Between the leaves of a text with JSON a line end can stand as a blank, and nothing else that is
read has one in it.

`Json.toOption_readChars_normalizeNewlines` : **the value that is read does not depend on the line
ends**, and neither does it whether there is one.  Only the places of faults move.
-/

namespace ComponentLookup

variable {text rest : List Char} {c : Char} {fuel : Nat}

namespace Json

/-! ### Blanks -/

theorem skipBlanks_normalizeNewlines (text : List Char) :
    skipBlanks (normalizeNewlines text) = normalizeNewlines (skipBlanks text) :=
  dropWhile_normalizeNewlines (by decide) text

/-- Behind the blanks the same bracket, comma or colon stands in both texts, or in none. -/
theorem skipBlanks_eq_cons_iff (hc : c ≠ '\r' ∧ c ≠ '\n') {rest' : List Char} :
    skipBlanks (normalizeNewlines text) = c :: rest' ↔
      ∃ rest, skipBlanks text = c :: rest ∧ rest' = normalizeNewlines rest := by
  rw [skipBlanks_normalizeNewlines]
  exact normalizeNewlines_eq_append_iff (List.forall_mem_singleton.2 hc)

theorem skipBlanks_ne_cons (hc : c ≠ '\r' ∧ c ≠ '\n') (h : ∀ rest, skipBlanks text ≠ c :: rest)
    (rest' : List Char) : skipBlanks (normalizeNewlines text) ≠ c :: rest' := fun heq => by
  obtain ⟨rest, hrest, -⟩ := (skipBlanks_eq_cons_iff hc).1 heq
  exact h rest hrest

/-! ### Values -/

/-- The readers of values, items and fields with so much fuel. -/
structure ValuesAgree (fuel : Nat) : Prop where
  value (text : List Char) : Agrees (value fuel text) (value fuel (normalizeNewlines text))
  items (text : List Char) : Agrees (items fuel text) (items fuel (normalizeNewlines text))
  fields (text : List Char) : Agrees (fields fuel text) (fields fuel (normalizeNewlines text))

theorem value_nil (h : skipBlanks text = ']' :: rest) :
    value (fuel + 1) ('[' :: text) = .ok (.arr [], rest) := by
  rw [value, h]
  rfl

theorem value_empty (h : skipBlanks text = '}' :: rest) :
    value (fuel + 1) ('{' :: text) = .ok (.obj [], rest) := by
  rw [value, h]
  rfl

theorem value_word {r : Json × List Char} (hc : c ≠ '"' ∧ c ≠ '[' ∧ c ≠ '{')
    (h : word? (c :: rest) = some r) : value (fuel + 1) (c :: rest) = .ok r := by
  rw [value, h]
  all_goals simp [hc]

theorem agrees_value_succ (ih : ValuesAgree fuel) (text : List Char) :
    Agrees (value (fuel + 1) text) (value (fuel + 1) (normalizeNewlines text)) := by
  have hnumber := agrees_number text
  have hword := word?_normalizeNewlines text
  rcases normalizeNewlines_cases text with rfl | ⟨_, _, rfl, hN⟩ | ⟨c, rest, rfl, hc, hN⟩
  · exact .error _ _
  · rw [hN] at hnumber ⊢
    rw [value_number _ (by decide) rfl, value_number _ (by decide) rfl]
    exact hnumber
  rw [hN] at hnumber hword ⊢
  by_cases hquote : c = '"'
  · subst hquote
    exact (agrees_stringBody rest).bind fun s after => .ok (Json.str s) after
  by_cases hlist : c = '['
  · subst hlist
    by_cases hclosed : ∃ after, skipBlanks rest = ']' :: after
    · obtain ⟨after, hafter⟩ := hclosed
      rw [value_nil hafter, value_nil ((skipBlanks_eq_cons_iff (by decide)).2 ⟨_, hafter, rfl⟩)]
      exact .ok _ after
    · have hopen := not_exists.1 hclosed
      rw [value_list fuel rfl hopen, value_list fuel rfl (skipBlanks_ne_cons (by decide) hopen),
        skipBlanks_normalizeNewlines]
      exact (ih.items _).map Json.arr
  by_cases hobject : c = '{'
  · subst hobject
    by_cases hclosed : ∃ after, skipBlanks rest = '}' :: after
    · obtain ⟨after, hafter⟩ := hclosed
      rw [value_empty hafter, value_empty ((skipBlanks_eq_cons_iff (by decide)).2 ⟨_, hafter, rfl⟩)]
      exact .ok _ after
    · have hopen := not_exists.1 hclosed
      rw [value_object fuel rfl hopen, value_object fuel rfl (skipBlanks_ne_cons (by decide) hopen),
        skipBlanks_normalizeNewlines]
      exact (ih.fields _).map fun fs => Json.obj (Fields.ofPairs fs)
  have hc' : c ≠ '"' ∧ c ≠ '[' ∧ c ≠ '{' := ⟨hquote, hlist, hobject⟩
  cases hread : word? (c :: rest) with
  | some r =>
    rw [hread] at hword
    rw [value_word hc' hread, value_word hc' hword]
    exact .ok _ _
  | none =>
    rw [hread] at hword
    rw [value_number fuel hc' hread, value_number fuel hc' hword]
    exact hnumber

/-! #### Containers -/

section

variable {α : Type} {close : Char} {last more : List Char → Except Fault α}

/-- What follows a value in a container: the closing bracket, or a comma and more. -/
def continued (close : Char) (last more : List Char → Except Fault α) :
    List Char → Except Fault α
  | [] => fault .comma []
  | c :: rest =>
    if c = close then last rest
    else if c = ',' then more (skipBlanks rest)
    else fault .comma (c :: rest)

theorem continued_close : continued close last more (close :: rest) = last rest :=
  if_pos rfl

theorem continued_comma (h : ',' ≠ close) :
    continued close last more (',' :: rest) = more (skipBlanks rest) :=
  (if_neg h).trans (if_pos rfl)

theorem continued_other (hclose : c ≠ close) (hcomma : c ≠ ',') :
    continued close last more (c :: rest) = fault .comma (c :: rest) :=
  (if_neg hclose).trans (if_neg hcomma)

theorem continued_fault (hclose : ∀ rest, text ≠ close :: rest)
    (hcomma : ∀ rest, text ≠ ',' :: rest) :
    continued close last more text = fault .comma text := by
  cases text with
  | nil => rfl
  | cons c rest =>
    refine continued_other ?_ ?_
    · rintro rfl
      exact hclose rest rfl
    · rintro rfl
      exact hcomma rest rfl

theorem agrees_continued {α : Type}
    {last more last' more' : List Char → Except Fault (α × List Char)}
    (hclose : close ≠ '\r' ∧ close ≠ '\n' ∧ ',' ≠ close)
    (hlast : ∀ rest, Agrees (last rest) (last' (normalizeNewlines rest)))
    (hmore : ∀ rest, Agrees (more rest) (more' (normalizeNewlines rest))) (text : List Char) :
    Agrees (continued close last more text)
      (continued close last' more' (normalizeNewlines text)) := by
  obtain ⟨hr, hn, hcomma⟩ := hclose
  rcases normalizeNewlines_cases text with rfl | ⟨_, _, rfl, hN⟩ | ⟨c, rest, rfl, hc, hN⟩
  · exact .error _ _
  · rw [hN, continued_other hr.symm (by decide), continued_other hn.symm (by decide)]
    exact .error _ _
  rw [hN]
  by_cases h : c = close
  · subst h
    rw [continued_close, continued_close]
    exact hlast rest
  by_cases h' : c = ','
  · subst h'
    rw [continued_comma hcomma, continued_comma hcomma, skipBlanks_normalizeNewlines]
    exact hmore _
  · rw [continued_other h h', continued_other h h']
    exact .error _ _

/-- What follows a name in an object: a colon and the value. -/
def afterColon (next : List Char → Except Fault α) : List Char → Except Fault α
  | [] => fault .colon []
  | c :: rest => if c = ':' then next (skipBlanks rest) else fault .colon (c :: rest)

theorem agrees_afterColon {α : Type} {next next' : List Char → Except Fault (α × List Char)}
    (hnext : ∀ rest, Agrees (next rest) (next' (normalizeNewlines rest))) (text : List Char) :
    Agrees (afterColon next text) (afterColon next' (normalizeNewlines text)) := by
  rcases normalizeNewlines_cases text with rfl | ⟨_, _, rfl, hN⟩ | ⟨c, rest, rfl, hc, hN⟩
  · exact .error _ _
  · rw [hN]
    exact .error _ _
  rw [hN]
  dsimp only [afterColon]
  by_cases h : c = ':'
  · rw [if_pos h, if_pos h, skipBlanks_normalizeNewlines]
    exact hnext _
  · rw [if_neg h, if_neg h]
    exact .error _ _

end

theorem items_succ (fuel : Nat) (text : List Char) :
    items (fuel + 1) text = value fuel text >>= fun read =>
      continued ']' (fun after => .ok ([read.1], after))
        (fun after => (items fuel after).map fun others => (read.1 :: others.1, others.2))
        (skipBlanks read.2) := by
  rw [items]
  refine congrArg _ (funext fun read => ?_)
  obtain ⟨v, rest⟩ := read
  dsimp only
  generalize skipBlanks rest = next
  split
  · rfl
  · rename_i after
    rw [continued_comma (by decide)]
    cases items fuel (skipBlanks after) <;> rfl
  · rename_i hclose hcomma
    exact (continued_fault hclose hcomma).symm

theorem fields_succ (fuel : Nat) (text : List Char) :
    fields (fuel + 1) ('"' :: text) = stringBody text >>= fun name =>
      afterColon (fun after => value fuel after >>= fun read =>
        continued '}' (fun after => .ok ([(name.1, read.1)], after))
          (fun after => (fields fuel after).map fun others =>
            ((name.1, read.1) :: others.1, others.2))
          (skipBlanks read.2)) (skipBlanks name.2) := by
  rw [fields]
  refine congrArg _ (funext fun name => ?_)
  obtain ⟨key, rest⟩ := name
  dsimp only
  generalize skipBlanks rest = next
  split
  · refine congrArg _ (funext fun read => ?_)
    obtain ⟨v, rest⟩ := read
    dsimp only
    generalize skipBlanks rest = next
    split
    · rfl
    · rename_i after
      rw [continued_comma (by decide)]
      cases fields fuel (skipBlanks after) <;> rfl
    · rename_i hclose hcomma
      exact (continued_fault hclose hcomma).symm
  · rename_i hcolon
    cases next with
    | nil => rfl
    | cons c after =>
      refine (if_neg ?_).symm
      rintro rfl
      exact hcolon _ rfl

theorem fields_other (hc : c ≠ '"') :
    fields (fuel + 1) (c :: rest) = fault .fieldName (c :: rest) := by
  rw [fields]
  rintro _ h
  cases h
  exact hc rfl

theorem agrees_items_succ (ih : ValuesAgree fuel) (text : List Char) :
    Agrees (items (fuel + 1) text) (items (fuel + 1) (normalizeNewlines text)) := by
  rw [items_succ, items_succ]
  refine (ih.value text).bind fun v rest => ?_
  dsimp only
  rw [skipBlanks_normalizeNewlines]
  exact agrees_continued (by decide) (fun after => .ok [v] after)
    (fun after => (ih.items after).map (v :: ·)) _

theorem agrees_fields_succ (ih : ValuesAgree fuel) (text : List Char) :
    Agrees (fields (fuel + 1) text) (fields (fuel + 1) (normalizeNewlines text)) := by
  rcases normalizeNewlines_cases text with rfl | ⟨_, _, rfl, hN⟩ | ⟨c, rest, rfl, hc, hN⟩
  · exact .error _ _
  · rw [hN]
    exact .error _ _
  rw [hN]
  by_cases hquote : c = '"'
  · subst hquote
    rw [fields_succ, fields_succ]
    refine (agrees_stringBody rest).bind fun key rest => ?_
    dsimp only
    rw [skipBlanks_normalizeNewlines]
    refine agrees_afterColon (fun after => (ih.value after).bind fun v rest => ?_) _
    dsimp only
    rw [skipBlanks_normalizeNewlines]
    exact agrees_continued (by decide) (fun after => .ok [(key, v)] after)
      (fun after => (ih.fields after).map ((key, v) :: ·)) _
  · rw [fields_other hquote, fields_other hquote]
    exact .error _ _

/-- **Values are read alike.** -/
theorem valuesAgree (fuel : Nat) : ValuesAgree fuel := by
  induction fuel with
  | zero => exact ⟨fun _ => .error _ _, fun _ => .error _ _, fun _ => .error _ _⟩
  | succ fuel ih => exact ⟨agrees_value_succ ih, agrees_items_succ ih, agrees_fields_succ ih⟩

/-! ### Whole texts -/

theorem toOption_document_normalizeNewlines (text : List Char) :
    (document (normalizeNewlines text)).toOption = (document text).toOption := by
  have hlength := length_normalizeNewlines_le text
  have hblanks := length_skipBlanks_le (normalizeNewlines text)
  have hvalue := (valuesAgree (2 * text.length + 2)).value (skipBlanks text)
  have hfuel : value (2 * (normalizeNewlines text).length + 2)
      (skipBlanks (normalizeNewlines text)) =
        value (2 * text.length + 2) (skipBlanks (normalizeNewlines text)) :=
    value_fuel (by omega) (by omega)
  unfold document
  rw [hfuel, skipBlanks_normalizeNewlines]
  refine hvalue.toOption_bind fun v rest => ?_
  dsimp only
  rw [skipBlanks_normalizeNewlines]
  by_cases h : skipBlanks rest = []
  · rw [h]
    rfl
  · obtain ⟨c, after, hafter⟩ := List.exists_cons_of_ne_nil h
    obtain ⟨c', after', hafter'⟩ :=
      List.exists_cons_of_ne_nil (mt normalizeNewlines_eq_nil_iff.1 h)
    rw [hafter', hafter]
    rfl

theorem toOption_readChars (text : List Char) :
    (readChars text).toOption = (document text).toOption := by
  unfold readChars
  cases document text <;> rfl

/-- Readings that agree find the same value, or both find none. -/
theorem ok_or_error_of_toOption_eq {ε ε' α : Type} {read : Except ε α} {read' : Except ε' α}
    (h : read.toOption = read'.toOption) :
    (∃ a, read = .ok a ∧ read' = .ok a) ∨ ∃ e e', read = .error e ∧ read' = .error e' := by
  cases read with
  | ok a =>
    cases read' with
    | ok a' => exact .inl ⟨a, rfl, congrArg Except.ok (Option.some.inj h).symm⟩
    | error e' => cases h
  | error e =>
    cases read' with
    | ok a' => cases h
    | error e' => exact .inr ⟨e, e', rfl, rfl⟩

/-- **The value that a text holds does not depend on the line ends**, and neither does it whether it
holds one. -/
theorem toOption_readChars_normalizeNewlines (text : List Char) :
    (readChars (normalizeNewlines text)).toOption = (readChars text).toOption := by
  rw [toOption_readChars, toOption_document_normalizeNewlines, toOption_readChars]

/-- Without a byte order mark in front a text is read from its first character on. -/
theorem toOption_read_normalizeNewlines (h : text.head? ≠ some '\uFEFF') :
    (read (String.ofList (normalizeNewlines text))).toOption = (readChars text).toOption := by
  rw [← toOption_readChars_normalizeNewlines]
  have hhead : ∀ rest, normalizeNewlines text ≠ '\uFEFF' :: rest := fun rest hmark => by
    have hword : ∀ c ∈ ['\uFEFF'], c ≠ '\r' ∧ c ≠ '\n' := by simp
    obtain ⟨after, rfl, -⟩ := (normalizeNewlines_eq_append_iff hword).1 hmark
    exact h rfl
  unfold read
  dsimp only
  rw [String.toList_ofList]
  split
  · rename_i heq
    exact absurd heq (hhead _)
  · rfl

/-- Of a text with a byte order mark in front nothing is read, whatever its line ends are. -/
theorem toOption_read_ofList_normalizeNewlines (text : List Char) :
    (read (String.ofList (normalizeNewlines text))).toOption =
      (read (String.ofList text)).toOption := by
  by_cases h : text.head? = some '\uFEFF'
  · obtain ⟨rest, rfl⟩ := List.head?_eq_some_iff.1 h
    rw [normalizeNewlines_cons (by decide)]
    simp only [read, String.toList_ofList]
  · rw [toOption_read_normalizeNewlines h]
    unfold read
    dsimp only
    rw [String.toList_ofList]
    split
    · exact absurd rfl h
    · rfl

end Json
end ComponentLookup
