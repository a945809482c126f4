import ComponentLookup.Proofs.Json.Fuel
import ComponentLookup.Proofs.Text.LineEnds

/-!
# Line ends in the leaves of JSON

Words, strings and numbers have no line end in them.  They are read alike from a text and from the
text with its line ends made line feeds (`Json.Agrees`): both readings stop, or both give the same
value, and what is left of the one text is what is left of the other with its line ends made line
feeds.

* `Json.agrees_stringTail` : a string.  Whether a high surrogate looks for a low one depends on the
  number of characters that are left, and so on the line ends behind the string; what is found does
  not.
* `Json.agrees_unsignedNumber` : a number.
-/

namespace ComponentLookup

variable {text rest : List Char} {c : Char}

namespace Json

/-! ### Two readings -/

/-- Both readings stop, or both give the same, and what the second one leaves is what the first one
leaves with its line ends made line feeds. -/
inductive Agrees {α : Type} :
    Except Fault (α × List Char) → Except Fault (α × List Char) → Prop where
  | ok (a : α) (rest : List Char) : Agrees (.ok (a, rest)) (.ok (a, normalizeNewlines rest))
  | error (e e' : Fault) : Agrees (.error e) (.error e')

namespace Agrees

variable {α β : Type} {read read' : Except Fault (α × List Char)}

theorem bind {next next' : α × List Char → Except Fault (β × List Char)} (h : Agrees read read')
    (hnext : ∀ a rest, Agrees (next (a, rest)) (next' (a, normalizeNewlines rest))) :
    Agrees (read >>= next) (read' >>= next') := by
  cases h with
  | ok a rest => exact hnext a rest
  | error e e' => exact .error e e'

theorem of_ok {a : α} (h : Agrees (.ok (a, rest)) read') :
    read' = .ok (a, normalizeNewlines rest) := by
  cases h
  rfl

theorem map (f : α → β) (h : Agrees read read') :
    Agrees (read.map fun r => (f r.1, r.2)) (read'.map fun r => (f r.1, r.2)) := by
  cases h with
  | ok a rest => exact .ok (f a) rest
  | error e e' => exact .error e e'

theorem toOption_bind {next : α × List Char → Except Fault β} (h : Agrees read read')
    (hnext : ∀ a rest, (next (a, normalizeNewlines rest)).toOption = (next (a, rest)).toOption) :
    (read' >>= next).toOption = (read >>= next).toOption := by
  cases h with
  | ok a rest => exact hnext a rest
  | error e e' => rfl

end Agrees

/-! ### Words -/

/-- What is recognised by a word at the front of a text is recognised in the normalised text too, if
no word has a line end in it. -/
theorem map_normalizeNewlines {α : Type} {f : List Char → Option (α × List Char)}
    {P : α → List Char → Prop} (hP : ∀ a word, P a word → ∀ c ∈ word, c ≠ '\r' ∧ c ≠ '\n')
    (hf : ∀ text a rest, f text = some (a, rest) ↔ ∃ word, P a word ∧ text = word ++ rest)
    (text : List Char) :
    f (normalizeNewlines text) = (f text).map fun r => (r.1, normalizeNewlines r.2) := by
  ext ⟨a, rest'⟩
  simp only [hf, Option.map_eq_some_iff, Prod.exists, Prod.mk.injEq]
  constructor
  · rintro ⟨word, hword, htext⟩
    obtain ⟨rest, rfl, rfl⟩ := (normalizeNewlines_eq_append_iff (hP a word hword)).1 htext
    exact ⟨a, rest, ⟨word, hword, rfl⟩, rfl, rfl⟩
  · rintro ⟨_, rest, ⟨word, hword, rfl⟩, rfl, rfl⟩
    exact ⟨word, hword, (normalizeNewlines_eq_append_iff (hP _ word hword)).2 ⟨rest, rfl, rfl⟩⟩

theorem word?_normalizeNewlines (text : List Char) :
    word? (normalizeNewlines text) =
      (word? text).map fun r => (r.1, normalizeNewlines r.2) := by
  refine map_normalizeNewlines (fun v word hword => ?_) (fun _ _ _ => word?_eq_some_iff) text
  have hwords : ∀ w ∈ words, ∀ c ∈ w.1, c ≠ '\r' ∧ c ≠ '\n' := by simp [words]
  exact hwords (word, v) hword

/-- Four hexadecimal digits. -/
def IsUnit (n : Nat) (digits : List Char) : Prop :=
  (∀ c ∈ digits, (hexValue? c).isSome = true) ∧ unit? digits = some (n, [])

theorem unit?_eq_some_iff {n : Nat} :
    unit? text = some (n, rest) ↔ ∃ digits, IsUnit n digits ∧ text = digits ++ rest := by
  constructor
  · intro h
    unfold unit? at h
    split at h
    · rename_i a b c d _
      simp only [Option.bind_eq_bind, Option.bind_eq_some_iff, Option.pure_def,
        Option.some.injEq, Prod.mk.injEq] at h
      obtain ⟨a', ha, b', hb, c', hc, d', hd, rfl, rfl⟩ := h
      exact ⟨[a, b, c, d], ⟨by simp [ha, hb, hc, hd], by simp [unit?, ha, hb, hc, hd]⟩, rfl⟩
    · cases h
  · rintro ⟨digits, ⟨-, h⟩, rfl⟩
    unfold unit? at h
    split at h
    · simp only [Option.bind_eq_bind, Option.bind_eq_some_iff, Option.pure_def,
        Option.some.injEq, Prod.mk.injEq] at h
      obtain ⟨a', ha, b', hb, c', hc, d', hd, rfl, rfl⟩ := h
      simp [unit?, ha, hb, hc, hd]
    · cases h

theorem unit?_normalizeNewlines (text : List Char) :
    unit? (normalizeNewlines text) =
      (unit? text).map fun r => (r.1, normalizeNewlines r.2) := by
  refine map_normalizeNewlines (fun n digits hdigits c hc => ?_) (fun _ _ _ => unit?_eq_some_iff)
    text
  have hvalue := hdigits.1 c hc
  constructor <;> (rintro rfl; cases hvalue)

/-! ### Strings -/

theorem escapedUnit_of_ne_nil {n : Nat} (h : unit? text = some (n, rest)) (hne : rest ≠ []) :
    escapedUnit text = .ok (n, rest) := by
  obtain ⟨c, rest, rfl⟩ := List.exists_cons_of_ne_nil hne
  rw [escapedUnit, h]

theorem agrees_escapedUnit (text : List Char) :
    Agrees (escapedUnit text) (escapedUnit (normalizeNewlines text)) := by
  have hunit' := unit?_normalizeNewlines text
  cases hunit : unit? text with
  | none =>
    rw [hunit] at hunit'
    unfold escapedUnit
    rw [hunit, hunit']
    exact .error _ _
  | some r =>
    obtain ⟨n, rest⟩ := r
    rw [hunit] at hunit'
    by_cases hrest : rest = []
    · subst hrest
      unfold escapedUnit
      rw [hunit, hunit']
      exact .error _ _
    · rw [escapedUnit_of_ne_nil hunit hrest,
        escapedUnit_of_ne_nil hunit' (mt normalizeNewlines_eq_nil_iff.1 hrest)]
      exact .ok n rest

/-- Four digits and what follows them are five characters. -/
theorem five_le_length {r : Nat × List Char} (h : escapedUnit text = .ok r) : 5 ≤ text.length := by
  unfold escapedUnit at h
  split at h
  · rename_i hunit
    unfold unit? at hunit
    split at hunit
    · simp only [Option.bind_eq_bind, Option.bind_eq_some_iff, Option.pure_def,
        Option.some.injEq, Prod.mk.injEq] at hunit
      obtain ⟨_, -, _, -, _, -, _, -, -, rfl⟩ := hunit
      simp only [List.length_cons]
      omega
    · cases hunit
  · cases h

/-- An escape without enough characters behind it is a fault. -/
theorem exists_stringTail_eq_error (opening fuel : Nat) (h : text.length < 5) :
    ∃ e, stringTail opening fuel ('\\' :: 'u' :: text) = .error e := by
  cases fuel with
  | zero => exact ⟨_, rfl⟩
  | succ fuel =>
    cases hunit : escapedUnit text with
    | error e => exact ⟨e, by rw [stringTail, unicodeEscape, hunit]; rfl⟩
    | ok r => exact absurd (five_le_length hunit) (Nat.not_le.2 h)

/-- The character of a high surrogate, which takes the escape behind it along if that one is a low
surrogate. -/
def surrogatePair (high : Nat) (rest : List Char) : Except Fault (Char × List Char) :=
  match rest with
  | '\\' :: 'u' :: more =>
    if more.length < 5 then .ok (unitChar high, rest)
    else do
      let (low, after) ← escapedUnit more
      if isLowSurrogate low then
        .ok (Char.ofNat (0x10000 + (high - 0xD800) * 0x400 + (low - 0xDC00)), after)
      else .ok (unitChar high, rest)
  | _ => .ok (unitChar high, rest)

theorem unicodeEscape_eq (text : List Char) :
    unicodeEscape text = escapedUnit text >>= fun read =>
      if isHighSurrogate read.1 then surrogatePair read.1 read.2
      else .ok (unitChar read.1, read.2) :=
  rfl

theorem surrogatePair_escape (high : Nat) (more : List Char) :
    surrogatePair high ('\\' :: 'u' :: more) =
      if more.length < 5 then .ok (unitChar high, '\\' :: 'u' :: more)
      else escapedUnit more >>= fun read =>
        if isLowSurrogate read.1 then
          .ok (Char.ofNat (0x10000 + (high - 0xD800) * 0x400 + (read.1 - 0xDC00)), read.2)
        else .ok (unitChar high, '\\' :: 'u' :: more) :=
  rfl

variable {next next' : Char × List Char → Except Fault (List Char × List Char)} {high : Nat}

/-- Behind a high surrogate both readings go on in the same way.  A second escape may be long enough
to be looked at before its line ends are made shorter, but not afterwards; then it is no escape, and
neither reading goes on. -/
theorem agrees_surrogatePair_escape
    (hnext : ∀ c rest, Agrees (next (c, rest)) (next' (c, normalizeNewlines rest)))
    (hfault : ∀ c more, more.length < 5 → ∃ e, next' (c, '\\' :: 'u' :: more) = .error e)
    (more : List Char) :
    Agrees (surrogatePair high ('\\' :: 'u' :: more) >>= next)
      (surrogatePair high ('\\' :: 'u' :: normalizeNewlines more) >>= next') := by
  have hlone := hnext (unitChar high) ('\\' :: 'u' :: more)
  rw [normalizeNewlines_cons (by decide), normalizeNewlines_cons (by decide)] at hlone
  have hlength := length_normalizeNewlines_le more
  have hsecond := agrees_escapedUnit more
  rw [surrogatePair_escape, surrogatePair_escape]
  split_ifs with hshort hshort' hshort'
  · exact hlone
  · omega
  -- the line ends behind the escape have made room for it in the one text only
  · obtain ⟨e', he'⟩ := hfault (unitChar high) _ hshort'
    cases hescape : escapedUnit more with
    | error e =>
      change Agrees (.error e) (next' (unitChar high, '\\' :: 'u' :: normalizeNewlines more))
      rw [he']
      exact .error _ _
    | ok r =>
      rw [hescape] at hsecond
      exact absurd (five_le_length hsecond.of_ok) (Nat.not_le.2 hshort')
  · simp only [bind_assoc]
    refine hsecond.bind fun low after => ?_
    dsimp only
    split_ifs with hlow
    · exact hnext _ after
    · exact hlone

theorem agrees_unicodeEscape
    (hnext : ∀ c rest, Agrees (next (c, rest)) (next' (c, normalizeNewlines rest)))
    (hfault : ∀ c more, more.length < 5 → ∃ e, next' (c, '\\' :: 'u' :: more) = .error e)
    (text : List Char) :
    Agrees (unicodeEscape text >>= next) (unicodeEscape (normalizeNewlines text) >>= next') := by
  rw [unicodeEscape_eq, unicodeEscape_eq]
  simp only [bind_assoc]
  refine (agrees_escapedUnit text).bind fun high rest => ?_
  dsimp only
  split_ifs with hhigh
  · by_cases hpair : ∃ more, rest = ['\\', 'u'] ++ more
    · obtain ⟨more, rfl⟩ := hpair
      have hN : normalizeNewlines (['\\', 'u'] ++ more) = '\\' :: 'u' :: normalizeNewlines more :=
        (normalizeNewlines_eq_append_iff (by simp)).2 ⟨more, rfl, rfl⟩
      rw [hN]
      exact agrees_surrogatePair_escape hnext hfault more
    · have hpair' : ∀ more, normalizeNewlines rest ≠ ['\\', 'u'] ++ more := fun more hmore => by
        obtain ⟨more, rfl, -⟩ := (normalizeNewlines_eq_append_iff (by simp)).1 hmore
        exact hpair ⟨more, rfl⟩
      unfold surrogatePair
      split
      · exact absurd ⟨_, rfl⟩ hpair
      · split
        · rename_i heq
          exact absurd heq (hpair' _)
        · exact hnext _ rest
  · exact hnext _ rest

/-! #### Whole strings -/

variable {opening opening' fuel : Nat}

theorem stringTail_control (h : c.toNat < 0x20) :
    stringTail opening (fuel + 1) (c :: rest) =
      .error (.malformed .controlCharacter (rest.length + 1)) := by
  have hquote : c ≠ '"' := by rintro rfl; revert h; decide
  have hbackslash : c ≠ '\\' := by rintro rfl; revert h; decide
  rw [stringTail, if_pos h]
  · rfl
  · exact hquote
  · exact fun h => absurd h hbackslash
  · exact fun _ h => absurd h hbackslash
  · exact fun _ _ h => absurd h hbackslash

theorem stringTail_badLetter (hu : c ≠ 'u') (h : letterEscape? c = none) :
    stringTail opening (fuel + 1) ('\\' :: c :: rest) =
      .error (.malformed .escape (rest.length + 2)) := by
  rw [stringTail, h]
  · rfl
  · exact hu

/-- **A string is read alike**, as far as its closing quote. -/
theorem agrees_stringTail (text : List Char) :
    Agrees (stringTail opening fuel text) (stringTail opening' fuel (normalizeNewlines text)) := by
  induction fuel generalizing text with
  | zero => exact .error _ _
  | succ fuel ih =>
    rcases normalizeNewlines_cases text with rfl | ⟨_, _, rfl, hN⟩ | ⟨c, rest, rfl, hc, hN⟩
    · exact .error _ _
    -- a line end within a string is a control character, whichever it is
    · rw [hN, stringTail_control (by decide), stringTail_control (by decide)]
      exact .error _ _
    rw [hN]
    by_cases hquote : c = '"'
    · subst hquote
      exact .ok [] rest
    by_cases hbackslash : c = '\\'
    · subst hbackslash
      rcases normalizeNewlines_cases rest with rfl | ⟨_, _, rfl, hN⟩ | ⟨letter, rest, rfl, -, hN⟩
      · exact .error _ _
      · rw [hN, stringTail_badLetter (by decide) rfl, stringTail_badLetter (by decide) rfl]
        exact .error _ _
      rw [hN]
      by_cases hu : letter = 'u'
      · subst hu
        refine agrees_unicodeEscape (fun c rest => ?_) (fun c more hmore => ?_) rest
        · exact (ih rest).bind fun cs after => .ok (c :: cs) after
        · obtain ⟨e, he⟩ := exists_stringTail_eq_error opening' fuel hmore
          exact ⟨e, by dsimp only; rw [he]; rfl⟩
      · cases hletter : letterEscape? letter with
        | none =>
          rw [stringTail_badLetter hu hletter, stringTail_badLetter hu hletter]
          exact .error _ _
        | some d =>
          rw [stringTail_letter _ _ hletter, stringTail_letter _ _ hletter]
          exact (ih rest).map (d :: ·)
    by_cases hcontrol : c.toNat < 0x20
    · rw [stringTail_control hcontrol, stringTail_control hcontrol]
      exact .error _ _
    · rw [stringTail_plain _ _ hquote hbackslash hcontrol,
        stringTail_plain _ _ hquote hbackslash hcontrol]
      exact (ih rest).map (c :: ·)

theorem agrees_stringBody (text : List Char) :
    Agrees (stringBody text) (stringBody (normalizeNewlines text)) := by
  have hfuel : stringTail ((normalizeNewlines text).length + 1)
      ((normalizeNewlines text).length + 1) (normalizeNewlines text) =
        stringTail ((normalizeNewlines text).length + 1) (text.length + 1)
          (normalizeNewlines text) :=
    stringTail_fuel _ (Nat.lt_succ_self _) (Nat.lt_succ_of_le (length_normalizeNewlines_le text))
  unfold stringBody
  -- the normalised text is shorter, but the fuel for the other one does as well
  rw [hfuel]
  exact (agrees_stringTail text).bind fun cs rest => .ok (String.ofList cs) rest

/-! ### Numbers -/

theorem takeWhile_isDigit_normalizeNewlines (text : List Char) :
    (normalizeNewlines text).takeWhile Char.isDigit = text.takeWhile Char.isDigit :=
  takeWhile_normalizeNewlines (by decide) (by decide) text

theorem dropWhile_isDigit_normalizeNewlines (text : List Char) :
    (normalizeNewlines text).dropWhile Char.isDigit =
      normalizeNewlines (text.dropWhile Char.isDigit) :=
  dropWhile_normalizeNewlines (by decide) text

theorem integerDigits_of_ne (hc : c ≠ '0') (rest : List Char) :
    integerDigits (c :: rest) =
      ((c :: rest).takeWhile Char.isDigit, (c :: rest).dropWhile Char.isDigit) := by
  rw [integerDigits]
  rintro _ h
  cases h
  exact hc rfl

theorem integerDigits_normalizeNewlines (text : List Char) :
    integerDigits (normalizeNewlines text) =
      ((integerDigits text).1, normalizeNewlines (integerDigits text).2) := by
  have htake := takeWhile_isDigit_normalizeNewlines text
  have hdrop := dropWhile_isDigit_normalizeNewlines text
  rcases normalizeNewlines_cases text with rfl | ⟨_, _, rfl, hN⟩ | ⟨c, rest, rfl, hc, hN⟩
  · rfl
  · rw [hN] at htake hdrop ⊢
    rw [integerDigits_of_ne (by decide), integerDigits_of_ne (by decide), htake, hdrop]
  · rw [hN] at htake hdrop ⊢
    by_cases h : c = '0'
    · subst h
      rfl
    · rw [integerDigits_of_ne h, integerDigits_of_ne h, htake, hdrop]

theorem fractionDigits_of_ne (hc : c ≠ '.') (rest : List Char) :
    fractionDigits (c :: rest) = ([], c :: rest) := by
  rw [fractionDigits]
  rintro _ h
  cases h
  exact hc rfl

theorem fractionDigits_point (rest : List Char) : fractionDigits ('.' :: rest) =
    if rest.takeWhile Char.isDigit = [] then ([], '.' :: rest)
    else (rest.takeWhile Char.isDigit, rest.dropWhile Char.isDigit) := by
  rw [fractionDigits]
  split
  · rename_i h
    rw [if_pos h]
  · rename_i h
    rw [if_neg h]

theorem fractionDigits_normalizeNewlines (text : List Char) :
    fractionDigits (normalizeNewlines text) =
      ((fractionDigits text).1, normalizeNewlines (fractionDigits text).2) := by
  rcases normalizeNewlines_cases text with rfl | ⟨_, _, rfl, hN⟩ | ⟨c, rest, rfl, hc, hN⟩
  · rfl
  · rw [fractionDigits_of_ne (by decide), hN, fractionDigits_of_ne (by decide)]
  · by_cases h : c = '.'
    · subst h
      rw [hN, fractionDigits_point, fractionDigits_point, takeWhile_isDigit_normalizeNewlines,
        dropWhile_isDigit_normalizeNewlines]
      split_ifs
      · rw [hN]
      · rfl
    · rw [fractionDigits_of_ne h, hN, fractionDigits_of_ne h]

theorem exponentSign_of_ne (hminus : c ≠ '-') (hplus : c ≠ '+') (rest : List Char) :
    exponentSign (c :: rest) = (false, c :: rest) := by
  rw [exponentSign]
  · rintro _ h
    cases h
    exact hminus rfl
  · rintro _ h
    cases h
    exact hplus rfl

theorem exponentSign_normalizeNewlines (text : List Char) :
    exponentSign (normalizeNewlines text) =
      ((exponentSign text).1, normalizeNewlines (exponentSign text).2) := by
  rcases normalizeNewlines_cases text with rfl | ⟨_, _, rfl, hN⟩ | ⟨c, rest, rfl, hc, hN⟩
  · rfl
  · rw [exponentSign_of_ne (by decide) (by decide), hN, exponentSign_of_ne (by decide) (by decide)]
  · by_cases hminus : c = '-'
    · subst hminus
      rw [hN]
      rfl
    by_cases hplus : c = '+'
    · subst hplus
      rw [hN]
      rfl
    · rw [exponentSign_of_ne hminus hplus, hN, exponentSign_of_ne hminus hplus]

theorem exponent?_normalizeNewlines (text : List Char) :
    exponent? (normalizeNewlines text) =
      (exponent? text).map fun r => (r.1, normalizeNewlines r.2) := by
  rcases normalizeNewlines_cases text with rfl | ⟨_, _, rfl, hN⟩ | ⟨mark, rest, rfl, hc, hN⟩
  · rfl
  · rw [hN, exponent?_of_not_mark (by decide), exponent?_of_not_mark (by decide)]
    rfl
  · rw [hN]
    by_cases hmark : mark = 'e' ∨ mark = 'E'
    · rw [exponent?_cons hmark, exponent?_cons hmark, exponentSign_normalizeNewlines,
        takeWhile_isDigit_normalizeNewlines, dropWhile_isDigit_normalizeNewlines]
      split <;> rfl
    · rw [exponent?_of_not_mark hmark, exponent?_of_not_mark hmark]
      rfl

/-- **A number is read alike.** -/
theorem agrees_unsignedNumber (negative : Bool) (start start' text : List Char) :
    Agrees (unsignedNumber negative start text)
      (unsignedNumber negative start' (normalizeNewlines text)) := by
  unfold unsignedNumber
  rw [integerDigits_normalizeNewlines]
  obtain ⟨whole, rest⟩ := integerDigits text
  dsimp only
  cases whole with
  | nil => exact .error _ _
  | cons d whole =>
    dsimp only
    rw [fractionDigits_normalizeNewlines]
    obtain ⟨fraction, rest⟩ := fractionDigits rest
    dsimp only
    rw [exponent?_normalizeNewlines]
    cases exponent? rest with
    | some r => exact .ok _ _
    | none =>
      cases fraction with
      | nil =>
        dsimp only [Option.map_none]
        by_cases hlong : maxIntegerDigits < (d :: whole).length
        · rw [if_pos hlong, if_pos hlong]
          exact .error _ _
        · rw [if_neg hlong, if_neg hlong]
          exact .ok _ rest
      | cons => exact .ok _ rest

theorem number_of_ne (hc : c ≠ '-') (rest : List Char) :
    number (c :: rest) = unsignedNumber false (c :: rest) (c :: rest) := by
  rw [number]
  rintro _ h
  cases h
  exact hc rfl

theorem agrees_number (text : List Char) :
    Agrees (number text) (number (normalizeNewlines text)) := by
  have hunsigned := agrees_unsignedNumber false text (normalizeNewlines text) text
  rcases normalizeNewlines_cases text with rfl | ⟨_, _, rfl, hN⟩ | ⟨c, rest, rfl, hc, hN⟩
  · exact hunsigned
  · rw [hN] at hunsigned ⊢
    rw [number_of_ne (by decide), number_of_ne (by decide)]
    exact hunsigned
  · rw [hN] at hunsigned ⊢
    by_cases h : c = '-'
    · subst h
      exact agrees_unsignedNumber true _ _ rest
    · rw [number_of_ne h, number_of_ne h]
      exact hunsigned

end Json
end ComponentLookup
