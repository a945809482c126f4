import ComponentLookup.Numeral.Binary64

/-!
# TOML documents

A document is a table, built up statement by statement.  A table remembers how it came about
(`Toml.Opening`), because that decides what may still be added to it: a table in braces is complete,
a header may appear once, and a dotted name reaches only tables that its own section has opened.

`Toml.Entries.extend?` is the one way to add to a document; a statement that would define something
twice has no result.
-/

namespace ComponentLookup

/-- How a table came about. -/
inductive Toml.Opening where
  /-- In braces. -/
  | inline
  /-- By a header of its own. -/
  | header
  /-- By a dotted name in the section of a number. -/
  | dotted (part : Nat)
  /-- On the way to another table. -/
  | implied
  deriving DecidableEq

/-- A TOML value.  Of a date or a time only is known that it is one. -/
inductive Toml where
  | string (s : String)
  | integer (n : Int)
  | float (x : Binary64)
  | boolean (b : Bool)
  | moment
  | array (items : List Toml)
  | table (opening : Toml.Opening) (entries : List (String × Toml))
  /-- Tables under one repeated header; the last one is still being filled. -/
  | tables (earlier : List (List (String × Toml))) (last : List (String × Toml))

namespace Toml

/-- The entries of a table, in order. -/
abbrev Entries := List (String × Toml)

namespace Entries

/-- The value of an entry. -/
def get? (key : String) : Entries → Option Toml
  | [] => none
  | (k, v) :: rest => if k = key then some v else get? key rest

/-- Assigns an entry: in place if it is there, else at the end. -/
def put (key : String) (value : Toml) : Entries → Entries
  | [] => [(key, value)]
  | (k, v) :: rest => if k = key then (k, value) :: rest else (k, v) :: put key value rest

@[simp] theorem get?_put_self (key : String) (value : Toml) (entries : Entries) :
    (entries.put key value).get? key = some value := by
  induction entries with
  | nil => simp [put, get?]
  | cons entry rest ih =>
    by_cases h : entry.1 = key <;> simp [put, get?, h, ih]

theorem get?_put_of_ne {key key' : String} (h : key' ≠ key) (value : Toml) (entries : Entries) :
    (entries.put key value).get? key' = entries.get? key' := by
  induction entries with
  | nil => simp [put, get?, h.symm]
  | cons entry rest ih =>
    by_cases he : entry.1 = key
    · simp [put, get?, he, h.symm]
    · simp [put, get?, he, ih]

end Entries

/-! ### The way to a table -/

/-- A step on the way to a table: part of a header, or part of a dotted name in a section. -/
structure Step where
  name : String
  part : Option Nat

/-- What becomes of a table that a step goes through.  Nothing is added to a table in braces, and a
dotted name goes through a table only if that has no header and no other section has opened it. -/
def Step.through (step : Step) : Opening → Option Opening
  | .inline => none
  | .header => if step.part.isNone then some .header else none
  | .dotted part =>
    match step.part with
    | none => some (.dotted part)
    | some part' => if part' = part then some (.dotted part) else none
  | .implied =>
    match step.part with
    | none => some .implied
    | some part => some (.dotted part)

/-- How a table comes about that a step creates. -/
def Step.created (step : Step) : Opening :=
  match step.part with
  | none => .implied
  | some part => .dotted part

/-- Changes the table at the end of a way.  Tables that are not there are created; of repeated
tables the last one is meant, and only a header leads there. -/
def Entries.extend? (change : Entries → Option Entries) : List Step → Entries → Option Entries
  | [], entries => change entries
  | step :: rest, entries =>
    match entries.get? step.name with
    | none => do
      let inner ← extend? change rest []
      some (entries.put step.name (.table step.created inner))
    | some (.table opening inner) => do
      let opening ← step.through opening
      let inner ← extend? change rest inner
      some (entries.put step.name (.table opening inner))
    | some (.tables earlier last) =>
      if step.part.isNone then do
        let last ← extend? change rest last
        some (entries.put step.name (.tables earlier last))
      else none
    | some _ => none

/-! ### Statements -/

/-- Adds a value under a new name. -/
def Entries.addValue? (name : String) (value : Toml) (entries : Entries) : Option Entries :=
  match entries.get? name with
  | none => some (entries.put name value)
  | some _ => none

/-- Opens a table by its header, which may have been implied before. -/
def Entries.openTable? (name : String) (entries : Entries) : Option Entries :=
  match entries.get? name with
  | none => some (entries.put name (.table .header []))
  | some (.table .implied inner) => some (entries.put name (.table .header inner))
  | some _ => none

/-- Opens one more table under a repeated header. -/
def Entries.openNext? (name : String) (entries : Entries) : Option Entries :=
  match entries.get? name with
  | none => some (entries.put name (.tables [] []))
  | some (.tables earlier last) => some (entries.put name (.tables (earlier ++ [last]) []))
  | some _ => none

theorem Entries.get?_addValue? {name : String} {value : Toml} {entries entries' : Entries}
    (h : entries.addValue? name value = some entries') : entries'.get? name = some value := by
  unfold Entries.addValue? at h
  split at h
  · cases h; simp
  · simp at h

end Toml

end ComponentLookup
