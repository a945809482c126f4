import ComponentLookup.Json.Display
import ComponentLookup.Text.Cluster

/-!
# Values over several lines

A list or an object that is printed stands on one line if it fits.  Otherwise its brackets stand on
lines of their own, and its items between them, each of them by the same rule and further in.
-/

namespace ComponentLookup.Console

open Text

/-- What stands on the lines of a value besides the value: the columns that it is moved in, the text
before it, the comma after it, and the columns that are kept for that comma. -/
structure Frame where
  indent : Nat
  head : List Char
  comma : List Char
  kept : Nat

namespace Frame

/-- Nothing stands beside the value. -/
def bare : Frame := { indent := 0, head := [], comma := [], kept := 0 }

/-- The frame of an item behind a text.  Columns for a comma are kept even if none follows. -/
def item (f : Frame) (head : List Char) (isLast : Bool) : Frame :=
  { indent := f.indent + 4, head, comma := if isLast then [] else [','], kept := 2 }

/-- The line with a text in the frame. -/
def line (f : Frame) (text : List Char) : List Char :=
  List.replicate f.indent ' ' ++ f.head ++ text ++ f.comma

/-- The line with an opening bracket. -/
def opening (f : Frame) (bracket : Char) : List Char :=
  { f with comma := [] }.line [bracket]

/-- The line with a closing bracket. -/
def closing (f : Frame) (bracket : Char) : List Char :=
  { f with head := [] }.line [bracket]

/-- A text fits beside what stands there. -/
def fits (f : Frame) (columns : Nat) (text : List Char) : Bool :=
  f.indent + width (f.head ++ text) + f.kept ≤ columns

end Frame

mutual

/-- The lines of a value in a number of columns. -/
def spread (columns : Nat) (f : Frame) : Json → List (List Char)
  | .arr (v :: vs) =>
    let text := (Json.arr (v :: vs)).quoted.toList
    if f.fits columns text then [f.line text]
    else f.opening '[' :: spreadItems columns f (v :: vs) ++ [f.closing ']']
  | .obj (v :: vs) =>
    let text := (Json.obj (v :: vs)).quoted.toList
    if f.fits columns text then [f.line text]
    else f.opening '{' :: spreadFields columns f (v :: vs) ++ [f.closing '}']
  | v => [f.line v.quoted.toList]

/-- The lines of the items of a list. -/
def spreadItems (columns : Nat) (f : Frame) : List Json → List (List Char)
  | [] => []
  | v :: rest => spread columns (f.item [] rest.isEmpty) v ++ spreadItems columns f rest

/-- The lines of the fields of an object. -/
def spreadFields (columns : Nat) (f : Frame) : List (String × Json) → List (List Char)
  | [] => []
  | (key, v) :: rest =>
    spread columns (f.item ((quote key).toList ++ [':', ' ']) rest.isEmpty) v ++
      spreadFields columns f rest

end

end ComponentLookup.Console
