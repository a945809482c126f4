import ComponentLookup.Json.Basic
import ComponentLookup.Json.Reader
import ComponentLookup.Text.Blank

/-!
# Checking outside values

Values that come from outside are checked field by field.  The checks are lenient: a truth value may
be written as zero or one or as a word, and an integer as a text or as a double without a fraction.
Every field that fails is reported with its place and its cause (`Violation`).
-/

namespace ComponentLookup

open Json

/-- A leaf value as the checks tell it apart; lists, objects, null and moments in time are all
`other`. -/
inductive Scalar where
  | text (s : String)
  | truth (b : Bool)
  | whole (n : Int)
  | real (x : Binary64)
  | other

/-- The leaf that a JSON value is. -/
def Scalar.ofJson : Json → Scalar
  | .str s => .text s
  | .bool b => .truth b
  | .int n => .whole n
  | .float x => .real x
  | _ => .other

/-- What is wrong with a value. -/
inductive Violation.Cause where
  | stringType
  | nameEmpty
  | boolParsing
  | boolType
  | intParsing
  | intParsingSize
  | intFromFloat
  | intType
  | finiteNumber
  | listType
  | dictType
  deriving DecidableEq

/-- The name of a cause. -/
def Violation.Cause.typeName : Violation.Cause → String
  | .stringType => "string_type"
  | .nameEmpty => "value_error"
  | .boolParsing => "bool_parsing"
  | .boolType => "bool_type"
  | .intParsing => "int_parsing"
  | .intParsingSize => "int_parsing_size"
  | .intFromFloat => "int_from_float"
  | .intType => "int_type"
  | .finiteNumber => "finite_number"
  | .listType => "list_type"
  | .dictType => "dict_type"

/-- The wording of a cause. -/
def Violation.Cause.message : Violation.Cause → String
  | .stringType => "Input should be a valid string"
  | .nameEmpty => "Value error, Name must not be empty."
  | .boolParsing => "Input should be a valid boolean, unable to interpret input"
  | .boolType => "Input should be a valid boolean"
  | .intParsing => "Input should be a valid integer, unable to parse string as an integer"
  | .intParsingSize => "Unable to parse input string as an integer, exceeded maximum size"
  | .intFromFloat => "Input should be a valid integer, got a number with a fractional part"
  | .intType => "Input should be a valid integer"
  | .finiteNumber => "Input should be a finite number"
  | .listType => "Input should be a valid list"
  | .dictType => "Input should be a valid dictionary"

/-- A step on the way to a value: a field or a list position. -/
inductive Violation.Step where
  | field (name : String)
  | item (index : Nat)
  deriving DecidableEq

/-- A value that failed its check. -/
structure Violation where
  place : List Violation.Step
  cause : Violation.Cause
  deriving DecidableEq

/-! ### Checks of leaves -/

namespace Scalar

/-- A text. -/
def asText : Scalar → Except Violation.Cause String
  | .text s => .ok s
  | _ => .error .stringType

/-- A name: a text that is not blank, without the blanks around it. -/
def asName (v : Scalar) : Except Violation.Cause String := do
  let name := Text.trim (← v.asText)
  if name = "" then .error .nameEmpty else .ok name

/-- The words for false. -/
def falseWords : List String := ["0", "off", "f", "false", "n", "no"]

/-- The words for true. -/
def trueWords : List String := ["1", "on", "t", "true", "y", "yes"]

/-- The integer fits in 64 bits with a sign. -/
def fitsWord (n : Int) : Bool := -0x8000000000000000 ≤ n && n < 0x8000000000000000

/-- The whole number that a double stands for, as far as it fits in 64 bits with a sign.  The lowest
of these numbers is left out. -/
def wholeWord? (x : Binary64) : Option Int :=
  x.toInt?.filter fun n => -0x8000000000000000 < n && n < 0x8000000000000000

/-- A truth value: as such, as zero or one, or as a word in letters of either case. -/
def asBool : Scalar → Except Violation.Cause Bool
  | .truth b => .ok b
  | .text s =>
    let word := String.ofList (s.toList.map Char.toLower)
    if word ∈ falseWords then .ok false
    else if word ∈ trueWords then .ok true
    else .error .boolParsing
  | .whole n =>
    if n = 0 then .ok false
    else if n = 1 then .ok true
    else .error (if fitsWord n then .boolParsing else .boolType)
  | .real x =>
    match wholeWord? x with
    | none => .error .boolType
    | some 0 => .ok false
    | some 1 => .ok true
    | some _ => .error .boolParsing
  | .other => .error .boolType

/-! ### Integers written as text -/

/-- The characters that are trimmed from the text of an integer. -/
def isMargin (c : Char) : Bool := Text.isBlank c && !(0x1c ≤ c.toNat && c.toNat ≤ 0x1f)

/-- The text without its margins. -/
def trimMargins (cs : List Char) : List Char :=
  ((cs.dropWhile isMargin).reverse.dropWhile isMargin).reverse

/-- Drops zeros in front, and underscores between them, behind a zero or underscore.  Of zeros alone
the last character is left, and the one in front of a point stays. -/
def dropZeros (last : Char) : List Char → Option (List Char)
  | [] => some [last]
  | c :: rest =>
    if c = '0' || c = '_' then dropZeros c rest
    else if c.isDigit || c = '-' then some (c :: rest)
    else if c = '.' then some (last :: c :: rest)
    else none

/-- Drops zeros in front of a number. -/
def dropLeadingZeros : List Char → Option (List Char)
  | [] => none
  | c :: rest =>
    if c = '0' then dropZeros c rest
    else if c.isDigit || c = '-' then some (c :: rest)
    else none

/-- Drops a fraction that consists of zeros, at least one. -/
def dropZeroFraction (cs : List Char) : List Char :=
  match cs.dropWhile (· != '.') with
  | _ :: fraction =>
    if fraction != [] && fraction.all (· == '0') then cs.takeWhile (· != '.') else cs
  | [] => cs

/-- An underscore stands at an end of the text, or two of them side by side. -/
def hasLooseUnderscore (cs : List Char) : Bool :=
  cs.head? == some '_' || cs.getLast? == some '_' ||
    (cs.zip (cs.drop 1)).any fun (a, b) => a == '_' && b == '_'

/-- Drops the underscores of a text, if none of them is loose. -/
def dropUnderscores (cs : List Char) : List Char :=
  if hasLooseUnderscore cs then cs else cs.filter (· != '_')

/-- What is left of the text of an integer without margins, plus sign, zeros in front, zeros behind
a point, and underscores. -/
def cleanInt? (cs : List Char) : Option (List Char) :=
  let unsigned := match trimMargins cs with
    | '+' :: '-' :: _ => none
    | '+' :: rest => some rest
    | cs => some cs
  (unsigned.bind dropLeadingZeros).map (dropUnderscores ∘ dropZeroFraction)

/-- The integer that digits with a sign give, if they are not too many. -/
def digitsInt? (cs : List Char) : Option Int :=
  let (negative, ds) := match cs with
    | '-' :: rest => (true, rest)
    | cs => (false, cs)
  if ds = [] || !ds.all Char.isDigit || Json.maxIntegerDigits < ds.length then none
  else
    let n : Int := Json.digitsValue ds
    some (if negative then -n else n)

/-- The text begins with more digits than an integer may have. -/
def isTooLong (cs : List Char) : Bool :=
  let ds := (if cs.head? = some '-' then cs.drop 1 else cs).takeWhile Char.isDigit
  ds.head? != some '0' && Json.maxIntegerDigits < ds.length

/-- The integer that a text denotes: digits with a sign, with underscores between them and with a
fraction of zeros allowed. -/
def parseInt (s : String) : Except Violation.Cause Int :=
  if isTooLong s.toList then .error .intParsingSize
  else
    match (cleanInt? s.toList).bind digitsInt? with
    | some n => .ok n
    | none => .error .intParsing

/-- An integer: as such, as a truth value, as a double without a fraction, or as a text. -/
def asInt : Scalar → Except Violation.Cause Int
  | .whole n => .ok n
  | .truth b => .ok (if b then 1 else 0)
  | .real x =>
    match x with
    | .finite .. =>
      if x.toInt?.isNone then .error .intFromFloat
      else
        match wholeWord? x with
        | some n => .ok n
        | none => .error .intParsingSize
    | _ => .error .finiteNumber
  | .text s => parseInt s
  | .other => .error .intType

end Scalar

/-! ### Checks with places -/

/-- A checked value, or the violations found in it. -/
abbrev Checked (α : Type) := Except (List Violation) α

namespace Checked

variable {α β : Type}

/-- The result of a check, with its place. -/
def leaf (place : List Violation.Step) (result : Except Violation.Cause α) : Checked α :=
  result.mapError fun cause => [{ place, cause }]

/-- Two checks side by side; the violations of both are reported. -/
def both (a : Checked α) (b : Checked β) : Checked (α × β) :=
  match a, b with
  | .ok a, .ok b => .ok (a, b)
  | .ok _, .error es => .error es
  | .error es, .ok _ => .error es
  | .error es, .error fs => .error (es ++ fs)

/-- Checks of several values; the violations of all are reported, in order. -/
def all : List (Checked α) → Checked (List α)
  | [] => .ok []
  | c :: rest => (both c (all rest)).map fun (a, as) => a :: as

end Checked

end ComponentLookup
