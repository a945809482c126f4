import ComponentLookup.Json.Reader
import ComponentLookup.Json.Writer
import Mathlib.Data.List.Basic
import Mathlib.Tactic.SplitIfs

/-!
# Texts and integers are read back

What the writer makes of a text or of an integer, the reader makes into the same text or integer,
whatever stands behind it.

* `Json.stringBody_quotedChars` : a text between quotes.  Each character is read back from its
  escape (`Json.stringTail_charEscape`), one outside the basic plane from two 16-bit units.
* `Json.number_integerChars` : an integer that has no more digits than the reader takes, and nothing
  behind it that would belong to the number (`Json.Ends`).
-/

namespace ComponentLookup

namespace Json

/-! ### Hexadecimal digits -/

theorem hexValue?_hexDigit : ∀ d < 16, hexValue? (hexDigit d) = some d := by decide

theorem hexChars_four (n : Nat) : hexChars 4 n =
    [hexDigit (n / 4096 % 16), hexDigit (n / 256 % 16), hexDigit (n / 16 % 16),
      hexDigit (n % 16)] := by
  simp [hexChars, List.range_succ]

/-- A 16-bit unit is read back from its four digits. -/
theorem unit?_hexChars {n : Nat} (hn : n < 0x10000) (rest : List Char) :
    unit? (hexChars 4 n ++ rest) = some (n, rest) := by
  have hdigit : ∀ m, hexValue? (hexDigit (m % 16)) = some (m % 16) :=
    fun m => hexValue?_hexDigit _ (Nat.mod_lt _ (by decide))
  have hvalue : ((n / 4096 % 16 * 16 + n / 256 % 16) * 16 + n / 16 % 16) * 16 + n % 16 = n := by
    omega
  simp only [hexChars_four, List.cons_append, List.nil_append, unit?, hdigit]
  simp [hvalue]

theorem escapedUnit_hexChars {n : Nat} (hn : n < 0x10000) (c : Char) (rest : List Char) :
    escapedUnit (hexChars 4 n ++ c :: rest) = .ok (n, c :: rest) := by
  rw [escapedUnit, unit?_hexChars hn]

/-! ### Characters -/

/-- A unit that is no high surrogate is read alone. -/
theorem unicodeEscape_hexChars {n : Nat} (hn : n < 0x10000) (hs : isHighSurrogate n = false)
    (c : Char) (rest : List Char) :
    unicodeEscape (hexChars 4 n ++ c :: rest) = .ok (unitChar n, c :: rest) := by
  rw [unicodeEscape, escapedUnit_hexChars hn]
  simp only [bind, Except.bind, hs, Bool.false_eq_true, if_false]

theorem isHighSurrogate_toNat (c : Char) : isHighSurrogate c.toNat = false := by
  have hvalid : c.toNat.isValidChar := c.valid
  simp only [isHighSurrogate, Bool.and_eq_false_iff, decide_eq_false_iff_not]
  rcases hvalid with h | h <;> omega

theorem unitChar_toNat (c : Char) : unitChar c.toNat = c := by
  have hvalid : c.toNat.isValidChar := c.valid
  rw [unitChar, if_pos hvalid, Char.ofNat_toNat]

/-- Two surrogates are read together. -/
theorem unicodeEscape_surrogates {high low : Nat} (hh : isHighSurrogate high = true)
    (hl : isLowSurrogate low = true) (c : Char) (rest : List Char) :
    unicodeEscape (hexChars 4 high ++ (unitEscape low ++ c :: rest)) =
      .ok (Char.ofNat (0x10000 + (high - 0xD800) * 0x400 + (low - 0xDC00)), c :: rest) := by
  have hhigh : high < 0x10000 := by
    simp only [isHighSurrogate, Bool.and_eq_true, decide_eq_true_eq] at hh
    omega
  have hlow : low < 0x10000 := by
    simp only [isLowSurrogate, Bool.and_eq_true, decide_eq_true_eq] at hl
    omega
  have hmore : ¬ (hexChars 4 low ++ c :: rest).length < 5 := by simp [hexChars_four]
  rw [unitEscape, List.cons_append, List.cons_append, unicodeEscape, escapedUnit_hexChars hhigh]
  simp only [bind, Except.bind, hh, if_true, if_neg hmore, escapedUnit_hexChars hlow, hl]

theorem surrogates_toNat {c : Char} (hc : ¬ c.toNat < 0x10000) :
    isHighSurrogate (0xD800 + (c.toNat - 0x10000) / 0x400) = true ∧
      isLowSurrogate (0xDC00 + (c.toNat - 0x10000) % 0x400) = true ∧
      Char.ofNat (0x10000 + (0xD800 + (c.toNat - 0x10000) / 0x400 - 0xD800) * 0x400 +
        (0xDC00 + (c.toNat - 0x10000) % 0x400 - 0xDC00)) = c := by
  have hvalid : c.toNat.isValidChar := c.valid
  have hbound : c.toNat < 0x110000 := by rcases hvalid with h | h <;> omega
  have hvalue : 0x10000 + (0xD800 + (c.toNat - 0x10000) / 0x400 - 0xD800) * 0x400 +
      (0xDC00 + (c.toNat - 0x10000) % 0x400 - 0xDC00) = c.toNat := by omega
  simp only [isHighSurrogate, isLowSurrogate, Bool.and_eq_true, decide_eq_true_eq]
  refine ⟨by omega, by omega, ?_⟩
  rw [hvalue, Char.ofNat_toNat]

/-! ### Texts -/

section

variable {c letter : Char} {text rest : List Char} (opening fuel : Nat)

/-- Puts a character in front of what has been read. -/
def withChar (c : Char) (read : List Char × List Char) : List Char × List Char :=
  (c :: read.1, read.2)

theorem bind_withChar (c : Char) (read : Except Fault (List Char × List Char)) :
    (do let (cs, rest) ← read; .ok (c :: cs, rest)) = read.map (withChar c) := by
  cases read <;> rfl

theorem stringTail_letter (h : letterEscape? letter = some c) :
    stringTail opening (fuel + 1) ('\\' :: letter :: rest) =
      (stringTail opening fuel rest).map (withChar c) := by
  have hu : letter ≠ 'u' := by
    rintro rfl
    cases h
  rw [stringTail, h]
  · exact bind_withChar c _
  · exact hu

theorem stringTail_unit (h : unicodeEscape text = .ok (c, rest)) :
    stringTail opening (fuel + 1) ('\\' :: 'u' :: text) =
      (stringTail opening fuel rest).map (withChar c) := by
  rw [stringTail, h]
  exact bind_withChar c _

theorem stringTail_plain (hquote : c ≠ '"') (hbackslash : c ≠ '\\') (hcontrol : ¬ c.toNat < 0x20) :
    stringTail opening (fuel + 1) (c :: rest) =
      (stringTail opening fuel rest).map (withChar c) := by
  rw [stringTail, if_neg hcontrol]
  · exact bind_withChar c _
  · exact hquote
  · exact fun h => absurd h hbackslash
  · exact fun _ h => absurd h hbackslash
  · exact fun _ _ h => absurd h hbackslash

/-- **A character is read back from its escape**, if something stands behind it. -/
theorem stringTail_charEscape (c : Char) (h : text ≠ []) :
    stringTail opening (fuel + 1) (charEscape c ++ text) =
      (stringTail opening fuel text).map (withChar c) := by
  obtain ⟨d, rest, rfl⟩ := List.exists_cons_of_ne_nil h
  unfold charEscape
  split_ifs with h1 h2 h3 h4 h5 h6 h7 hprintable hbasic
  · subst h1
    exact stringTail_letter opening fuel rfl
  · subst h2
    exact stringTail_letter opening fuel rfl
  · subst h3
    exact stringTail_letter opening fuel rfl
  · subst h4
    exact stringTail_letter opening fuel rfl
  · subst h5
    exact stringTail_letter opening fuel rfl
  · subst h6
    exact stringTail_letter opening fuel rfl
  · subst h7
    exact stringTail_letter opening fuel rfl
  · exact stringTail_plain opening fuel h1 h2 (by omega)
  · -- no character is a surrogate, so its unit is read alone
    have hread := unicodeEscape_hexChars hbasic (isHighSurrogate_toNat c) d rest
    rw [unitChar_toNat] at hread
    exact stringTail_unit opening fuel hread
  · obtain ⟨hhigh, hlow, hchar⟩ := surrogates_toNat hbasic
    have hread := unicodeEscape_surrogates hhigh hlow d rest
    rw [hchar] at hread
    rw [List.append_assoc]
    exact stringTail_unit opening fuel hread

theorem stringTail_flatMap (cs : List Char) (h : cs.length < fuel) :
    stringTail opening fuel (cs.flatMap charEscape ++ '"' :: rest) = .ok (cs, rest) := by
  induction cs generalizing fuel with
  | nil =>
    obtain ⟨fuel, rfl⟩ := Nat.exists_eq_succ_of_ne_zero (Nat.ne_of_gt h)
    rfl
  | cons c cs ih =>
    obtain ⟨fuel, rfl⟩ := Nat.exists_eq_succ_of_ne_zero (Nat.ne_of_gt (Nat.zero_lt_of_lt h))
    have hcs := ih fuel (Nat.lt_of_succ_lt_succ h)
    rw [List.flatMap_cons, List.append_assoc, stringTail_charEscape _ _ _ (by simp), hcs]
    rfl

end

theorem charEscape_ne_nil (c : Char) : charEscape c ≠ [] := by
  unfold charEscape
  split_ifs <;> simp [unitEscape]

/-- No escape is empty, so the text is no longer than what is written. -/
theorem length_le_flatMap (cs : List Char) : cs.length ≤ (cs.flatMap charEscape).length := by
  induction cs with
  | nil => exact Nat.le_refl _
  | cons c cs ih =>
    have hc := List.length_pos_of_ne_nil (charEscape_ne_nil c)
    rw [List.flatMap_cons, List.length_append, List.length_cons]
    omega

/-- **A text is read back from between its quotes.** -/
theorem stringBody_quotedChars (s : String) (rest : List Char) :
    stringBody (s.toList.flatMap charEscape ++ '"' :: rest) = .ok (s, rest) := by
  have hlength := length_le_flatMap s.toList
  rw [stringBody, stringTail_flatMap _ _ _ (by rw [List.length_append]; omega)]
  simp only [bind, Except.bind, String.ofList_toList]

/-! ### Integers -/

/-- The text goes on with nothing that would belong to a number in front of it. -/
def Ends (text : List Char) : Prop :=
  ∀ c ∈ text.head?, c.isDigit = false ∧ c ≠ '.' ∧ c ≠ 'e' ∧ c ≠ 'E'

variable {rest : List Char}

theorem fractionDigits_of_ends (h : Ends rest) : fractionDigits rest = ([], rest) := by
  unfold fractionDigits
  split
  · exact absurd rfl (h '.' rfl).2.1
  · rfl

theorem exponent?_of_ends (h : Ends rest) : exponent? rest = none := by
  unfold exponent?
  split
  · rfl
  · rename_i c text
    obtain ⟨-, -, he, hE⟩ := h c rfl
    exact if_neg (not_or.2 ⟨he, hE⟩)

/-- A number begins with a digit. -/
theorem exists_toDigits_eq (n : Nat) :
    ∃ d ds, Nat.toDigits 10 n = d :: ds ∧ d.isDigit = true := by
  obtain ⟨d, ds, heq⟩ := List.exists_cons_of_ne_nil (Nat.toDigits_ne_nil (n := n) (b := 10))
  have hd : d ∈ Nat.toDigits 10 n := heq ▸ List.mem_cons_self
  exact ⟨d, ds, heq, Nat.isDigit_of_mem_toDigits (by decide) (by decide) hd⟩

theorem digitsValue_eq (ds : List Char) : digitsValue ds = Nat.ofDigitChars 10 ds 0 := by
  simp only [digitsValue, Nat.ofDigitChars, Nat.mul_comm]

/-- Only the number zero is written with a zero in front. -/
theorem head?_toDigits {n : Nat} (hn : n ≠ 0) : (Nat.toDigits 10 n).head? ≠ some '0' := by
  induction n using Nat.strongRecOn with
  | _ n ih =>
    rw [Nat.toDigits_eq_if (by decide)]
    split_ifs with hlt
    · have hdigit : ∀ d < 10, d ≠ 0 → d.digitChar ≠ '0' := by decide
      simpa using hdigit n hlt hn
    · -- the leading digits are those of the tenth part
      have hhead := ih (n / 10) (by omega) (by omega)
      rwa [List.head?_append_of_ne_nil _ Nat.toDigits_ne_nil]

theorem integerDigits_toDigits (n : Nat) (h : Ends rest) :
    integerDigits (Nat.toDigits 10 n ++ rest) = (Nat.toDigits 10 n, rest) := by
  by_cases hn : n = 0
  · subst hn
    rw [Nat.toDigits_zero]
    rfl
  · have hdigits : ∀ c ∈ Nat.toDigits 10 n, c.isDigit = true :=
      fun c hc => Nat.isDigit_of_mem_toDigits (by decide) (by decide) hc
    have hrest : rest.takeWhile Char.isDigit = [] ∧ rest.dropWhile Char.isDigit = rest := by
      cases rest with
      | nil => exact ⟨rfl, rfl⟩
      | cons c rest => simp [(h c rfl).1]
    unfold integerDigits
    split
    · -- a zero in front would end the number
      rename_i text heq
      have hhead := head?_toDigits hn
      rw [← List.head?_append_of_ne_nil _ Nat.toDigits_ne_nil, heq] at hhead
      exact absurd rfl hhead
    · rw [List.takeWhile_append_of_pos hdigits, List.dropWhile_append_of_pos hdigits, hrest.1,
        hrest.2, List.append_nil]

/-- The integer has more digits than the reader takes. -/
def IsLong (n : Int) : Prop := Nat.pow 10 maxIntegerDigits ≤ n.natAbs

instance : DecidablePred IsLong := fun n =>
  inferInstanceAs (Decidable (Nat.pow 10 maxIntegerDigits ≤ n.natAbs))

theorem unsignedNumber_toDigits {n : Nat} (hn : n < Nat.pow 10 maxIntegerDigits) (negative : Bool)
    (start : List Char) (h : Ends rest) :
    unsignedNumber negative start (Nat.toDigits 10 n ++ rest) =
      .ok (.int (if negative then -(n : Int) else n), rest) := by
  have hlength : ¬ maxIntegerDigits < (Nat.toDigits 10 n).length := by
    have hpos : 0 < maxIntegerDigits := by decide
    -- the power is not to be computed
    generalize maxIntegerDigits = limit at hn hpos
    exact Nat.not_lt.2 ((Nat.length_toDigits_le_iff (by decide) hpos).2 hn)
  have hvalue : digitsValue (Nat.toDigits 10 n) = n := by
    rw [digitsValue_eq, Nat.ofDigitChars_ten_toDigits]
  unfold unsignedNumber
  rw [integerDigits_toDigits n h]
  split
  · rename_i hnil
    exact absurd (congrArg Prod.fst hnil) Nat.toDigits_ne_nil
  · rename_i whole rest' _ heq
    cases heq
    simp only [fractionDigits_of_ends h, exponent?_of_ends h, if_neg hlength, hvalue]

/-- **An integer is read back from its digits.** -/
theorem number_integerChars {n : Int} (hn : ¬ IsLong n) (h : Ends rest) :
    number (integerChars n ++ rest) = .ok (.int n, rest) := by
  have hlt : n.natAbs < Nat.pow 10 maxIntegerDigits := Nat.not_le.1 hn
  unfold integerChars
  split_ifs with hneg
  · have hvalue : -(n.natAbs : Int) = n := by omega
    rw [List.cons_append, number, unsignedNumber_toDigits hlt true _ h, if_pos rfl, hvalue]
  · have hvalue : (n.natAbs : Int) = n := by omega
    obtain ⟨d, ds, hdigits, hd⟩ := exists_toDigits_eq n.natAbs
    unfold number
    split
    · -- the sign is no digit
      rename_i heq
      rw [hdigits] at heq
      cases heq
      cases hd
    · rw [unsignedNumber_toDigits hlt false _ h, if_neg (by decide), hvalue]

end Json

end ComponentLookup
