import ComponentLookup.Text.CodePoint

/-!
# Blank characters

The characters that are trimmed from both ends of a name: those with the Unicode property
White_Space, and the four separators U+001C to U+001F.  Zero-width characters such as U+200B and
U+FEFF are no blanks.
-/

namespace ComponentLookup.Text

/-- The blank characters. -/
def blankRanges : List (Nat × Nat) :=
  [(0x9, 0xd), (0x1c, 0x20), (0x85, 0x85), (0xa0, 0xa0), (0x1680, 0x1680), (0x2000, 0x200a),
   (0x2028, 0x2029), (0x202f, 0x202f), (0x205f, 0x205f), (0x3000, 0x3000)]

/-- The character is blank. -/
def isBlank (c : Char) : Bool := inRanges blankRanges c.toNat

/-- Every character that ends a word in plain ASCII text is blank. -/
theorem isBlank_of_isWhitespace {c : Char} (h : c.isWhitespace = true) : isBlank c = true := by
  simp [Char.isWhitespace] at h
  rcases h with ((h | h) | h) | h <;> subst h <;> decide

/-- The text without blanks at either end. -/
def trim (s : String) : String :=
  String.ofList ((s.toList.dropWhile isBlank).reverse.dropWhile isBlank).reverse

end ComponentLookup.Text
