import ComponentLookup.Console.Wrap

/-!
# The layout of log lines

A log line has two parts, the level of a record and its message, each with columns of its own.  The
message is wrapped in its columns, and the level stands beside its first line.  The level takes nine
columns as long as that leaves one for the message.  On a narrower console the message has a single
column, if it has anything to show, and the level what is left, with dots for what goes beyond it.
-/

namespace ComponentLookup.Console

open Text

/-- The columns of the two parts of a log line. -/
structure LogLayout where
  level : Nat
  message : Nat
  deriving DecidableEq

namespace LogLayout

/-- The columns for the name of a level. -/
def nameColumns : Nat := 8

/-- The layout on a console of some columns, for a message.  A blank is between the parts. -/
def of (columns : Nat) (message : List Char) : LogLayout :=
  if nameColumns + 1 < columns then
    { level := nameColumns + 1, message := columns - (nameColumns + 1) }
  else if columns ≤ 1 then { level := columns, message := 0 }
  else
    { level := columns - 1
      message := if (splitOn '\n' message).any (width · != 0) then 1 else 0 }

variable (layout : LogLayout)

/-- The name of a level in its columns. -/
def levelPart (name : List Char) : List Char :=
  let room := layout.level - 1
  let padded := name ++ List.replicate (nameColumns - name.length) ' '
  let part := if room = 0 then [] else fitWithDots room padded
  part ++ List.replicate (layout.level - width part) ' '

/-- The lines of a message in its columns; without columns, one empty line. -/
def messageLines (message : List Char) : List (List Char) :=
  if layout.message = 0 then [[]] else wrap layout.message message

/-- The lines of a record.  Without a column there are none. -/
def lines (name message : List Char) : List (List Char) :=
  if layout.level = 0 then []
  else
    (layout.messageLines message).zipIdx.map fun (line, i) =>
      (if i = 0 then layout.levelPart name else List.replicate layout.level ' ') ++ line

/-- The two parts together never take more columns than there are. -/
theorem columns_le (columns : Nat) (message : List Char) :
    (of columns message).level + (of columns message).message ≤ columns := by
  unfold of nameColumns
  split
  · simp only; omega
  · split
    · simp
    · simp only
      split <;> omega

end LogLayout

end ComponentLookup.Console
