import ComponentLookup.Json.Reader
import ComponentLookup.Text.Blank
import ComponentLookup.Text.Lower
import ComponentLookup.Text.PictographCodes
import ComponentLookup.Text.Split

/-!
# Pictographs by name

A message may name a pictograph between two colons, such as `:warning:`.  `replaceNames` puts the
pictograph in place of a name that is known; letter case does not matter.  The endings `-emoji` and
`-text` ask for one of the two looks that some pictographs have.
-/

namespace ComponentLookup.Console

open Text

/-! ### Names -/

/-- The pictograph that code points in hexadecimal digits make up. -/
def pictographOfCodes (codes : List Char) : List Char :=
  (splitOn '-' codes).map fun digits =>
    Char.ofNat (digits.foldl (fun n d => n * 16 + (Json.hexValue? d).getD 0) 0)

/-- The known names with their pictographs. -/
def pictographs : List (List Char × List Char) :=
  pictographCodes.flatten.flatMap fun codes =>
    (splitOn ' ' codes.toList).map fun entry =>
      (entry.takeWhile (· != '='), pictographOfCodes ((entry.dropWhile (· != '=')).drop 1))

/-- The endings of names, and the characters that choose a look. -/
def looks : List (List Char × Char) :=
  [("-emoji".toList, '\ufe0f'), ("-text".toList, '\ufe0e')]

/-- What is shown for a name between colons. -/
def shownName (name : List Char) : List Char :=
  let look := looks.find? fun look => look.1.isSuffixOf name
  let plain := name.take (name.length - (look.map (·.1.length)).getD 0)
  match pictographs.lookup (lowerFrom false plain) with
  | some pictograph => pictograph ++ (look.map (·.2)).toList
  | none => ':' :: name ++ [':']

/-! ### Texts -/

/-- The character may stand in a name between colons. -/
def isNamePart (c : Char) : Bool := c != ':' && !isBlank c

/-- Puts pictographs in place of their names. -/
def replaceNames (text : List Char) : List Char :=
  match text with
  | [] => []
  | c :: rest =>
    if c = ':' then
      match _h : rest.dropWhile isNamePart with
      | ':' :: behind => shownName (rest.takeWhile isNamePart) ++ replaceNames behind
      | _ => c :: replaceNames rest
    else c :: replaceNames rest
termination_by text.length
decreasing_by
  · have := (List.dropWhile_suffix isNamePart (l := rest)).length_le
    rw [_h] at this
    simp only [List.length_cons] at this ⊢
    omega
  all_goals simp only [List.length_cons]; omega

/-- A text without colons stays as it is. -/
theorem replaceNames_of_not_mem {text : List Char} (h : ':' ∉ text) : replaceNames text = text := by
  induction text with
  | nil => simp [replaceNames]
  | cons c rest ih =>
    simp only [List.mem_cons, not_or] at h
    rw [replaceNames, if_neg (Ne.symm h.1), ih h.2]

end ComponentLookup.Console
