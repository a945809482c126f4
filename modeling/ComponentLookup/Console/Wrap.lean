import ComponentLookup.Text.Blank
import ComponentLookup.Text.Cluster
import ComponentLookup.Text.Split

/-!
# Wrapping text

`wrap` breaks a text into lines that fit a number of columns.  A line ends before the first word
that does not fit into what is left of it; a word that fits no line is cut.  Blanks stay behind the
word that they follow, and do not count when it is asked whether the word fits.
-/

namespace ComponentLookup.Console

open Text

/-! ### Lines and words -/

/-- Replaces tabs by blanks up to the next multiple of eight columns.  The columns before the part
since the last tab are counted; the part is given backwards. -/
def expandTabs (column : Nat) (part : List Char) : List Char → List Char
  | [] => part.reverse
  | c :: rest =>
    if c = '\t' then
      let part := (' ' :: part).reverse
      let column := column + width part
      let blanks := (8 - column % 8) % 8
      part ++ List.replicate blanks ' ' ++ expandTabs (column + blanks) [] rest
    else expandTabs column (c :: part) rest

/-- The text without the blanks at its end. -/
def trimEnd (cs : List Char) : List Char := (cs.reverse.dropWhile isBlank).reverse

/-- The words of a line, each with the blanks behind it, the first one also with those before it.  A
line of blanks has no words. -/
def lineWords (line : List Char) : List (List Char) :=
  let runs := line.splitBy fun a b => isBlank a == isBlank b
  match runs with
  | first :: second :: rest =>
    if first.all isBlank then
      match joinBlanks (second :: rest) with
      | word :: words => (first ++ word) :: words
      | [] => []
    else joinBlanks runs
  | runs => runs.filter fun run => !run.all isBlank
where
  /-- Joins each word with the blanks behind it. -/
  joinBlanks : List (List Char) → List (List Char)
    | word :: blanks :: rest => (word ++ blanks) :: joinBlanks rest
    | runs => runs

/-! ### Breaking a line -/

/-- A line under construction: the lines before it, the last one first, and what is on it. -/
structure Setting where
  done : List (List Char)
  line : List Char
  used : Nat

/-- Nothing is set yet. -/
def Setting.empty : Setting := { done := [], line := [], used := 0 }

/-- Ends the line, unless nothing is set yet. -/
def Setting.endLine (s : Setting) : Setting :=
  if s.done.isEmpty && s.line.isEmpty then s
  else { done := s.line :: s.done, line := [], used := 0 }

/-- Puts a piece on the line. -/
def Setting.put (s : Setting) (piece : List Char) : Setting :=
  { s with line := s.line ++ piece, used := s.used + width piece }

/-- Puts pieces on lines of their own; the first one goes on the present line. -/
def Setting.putLines (s : Setting) : List (List Char) → Setting
  | [] => s
  | [piece] => s.put piece
  | piece :: rest => putLines (s.put piece).endLine rest

/-- Puts a word on the line, or on the next one if it does not fit. -/
def Setting.add (columns : Nat) (s : Setting) (word : List Char) : Setting :=
  let needed := width (trimEnd word)
  if s.used + needed ≤ columns then s.put word
  else if columns < needed then s.endLine.putLines (chop columns word)
  else s.endLine.put word

/-- Breaks a line into lines of at most `columns` columns, blanks at the end aside. -/
def wrapLine (columns : Nat) (line : List Char) : List (List Char) :=
  let s := (lineWords line).foldl (Setting.add columns) Setting.empty
  (s.line :: s.done).reverse

/-! ### Fitting a line -/

/-- Drops blanks from the end of a line as long as it has more characters than columns. -/
def dropExcess (columns : Nat) (line : List Char) : List Char :=
  let blanks := (line.reverse.takeWhile isBlank).length
  line.take (line.length - min blanks (line.length - columns))

/-- The line in a number of columns; what goes beyond them is cut off. -/
def fitLine (columns : Nat) (line : List Char) : List Char :=
  let line := dropExcess columns line
  if columns < width line then crop columns line else line

/-- The line in a number of columns; dots stand for what goes beyond them. -/
def fitWithDots (columns : Nat) (line : List Char) : List Char :=
  let line := dropExcess columns line
  if columns < width line then crop (columns - 1) line ++ ['…'] else line

/-- Breaks a text into lines of at most `columns` columns. -/
def wrap (columns : Nat) (text : List Char) : List (List Char) :=
  (splitOn '\n' text).flatMap fun line =>
    (wrapLine columns (expandTabs 0 [] line)).map (fitLine columns)

theorem wrapLine_ne_nil (columns : Nat) (line : List Char) : wrapLine columns line ≠ [] := by
  simp [wrapLine]

end ComponentLookup.Console
