import ComponentLookup.Console.LogLayout
import ComponentLookup.Console.Markup
import ComponentLookup.Console.Spread
import ComponentLookup.Log

/-!
# Consoles

Messages go to one console at a time: to standard error at first, or to a console that was set in
its place.  The log goes where the printed text goes, through one handler that follows each change,
and shows the records from some level on.
-/

namespace ComponentLookup

open Console

/-- The state of the output: the console in use (none for standard error), the consoles made so far
with their widths, and the level of the log. -/
structure Output where
  current : Option String
  consoles : List (String × Int)
  level : Log.Level

namespace Output

/-- The width of a console that was made without one. -/
def defaultWidth : Int := 200

/-- Output to standard error, from information on. -/
def initial : Output := { current := none, consoles := [], level := .info }

variable (out : Output)

/-- The width of a console that was made. -/
def width? (id : String) : Option Int := out.consoles.lookup id

/-- The width of the console in use. -/
def width : Int := (out.current.bind out.width?).getD defaultWidth

/-- A level that was unset becomes information when the log is bound to a console. -/
def boundLevel : Log.Level := if out.level = .notSet then .info else out.level

/-- Sends the output to a console, which is made if it is not there. -/
def use (id : String) (width : Int) : Output :=
  { current := some id
    consoles := if (out.width? id).isSome then out.consoles
      else out.consoles ++ [(id, width)]
    level := out.boundLevel }

/-- Sends the output to standard error. -/
def reset : Output := { out with current := none, level := out.boundLevel }

/-- The least level that is shown; as long as none is set, that of warnings. -/
def threshold : Log.Level := if out.level = .notSet then .warning else out.level

/-! ### Lines -/

/-- A line as it is shown, without blanks at its end. -/
def shown (line : List Char) : String := String.ofList (trimEnd line)

/-- A list or an object, which is printed on lines of its own. -/
def standsAlone : Json → Bool
  | .arr _ | .obj _ => true
  | _ => false

/-- Values that are printed together: a list or an object by itself, anything else with blanks
between.  Only texts that stand for themselves have markup. -/
def blockText (columns : Nat) (values : List Json) : Except Markup.Fault (List Char) :=
  match values.find? standsAlone with
  | some value => .ok (['\n'].intercalate (spread columns .bare value))
  | none => do .ok ([' '].intercalate (← values.mapM fun value => Markup.plainText value.display))

/-- The lines that printing shows; without values one empty line.  A console without a column shows
nothing. -/
def print (values : List Json) : Except Markup.Fault (List String) := do
  let columns := out.width.toNat
  let blocks := values.splitBy fun a b => !standsAlone a && !standsAlone b
  let texts ← (if values.isEmpty then [[]] else blocks).mapM (blockText columns)
  .ok (if columns = 0 then [] else (texts.flatMap (wrap columns)).map shown)

/-! ### Log lines

The console reads a message, and any reader of markup can stand in that place; the one that runs is
`Markup.plainText`. -/

section

variable {φ : Type} (read : String → Except φ (List Char))

/-- The lines of a record: the level, and the message beside it. -/
def recordLinesWith (record : Log.Record) : Except φ (List String) := do
  let message ← read record.message
  .ok ((LogLayout.of out.width.toNat message).lines record.level.name.toList message |>.map shown)

/-- The lines of records in order, up to the first one that cannot be shown. -/
def allLinesWith : List Log.Record → List String × Option φ
  | [] => ([], none)
  | record :: rest =>
    match out.recordLinesWith read record with
    | .error fault => ([], some fault)
    | .ok lines =>
      let (more, fault) := allLinesWith rest
      (lines ++ more, fault)

/-- The lines that logging shows. -/
def logWith (records : List Log.Record) : List String × Option φ :=
  out.allLinesWith read (Log.atLeast out.threshold records)

end

/-- The lines that logging shows. -/
def log (records : List Log.Record) : List String × Option Markup.Fault :=
  out.logWith Markup.plainText records

end Output

end ComponentLookup
