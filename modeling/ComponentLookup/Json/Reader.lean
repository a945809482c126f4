import ComponentLookup.Json.Basic

/-!
# Reading JSON

`Json.read` reads one value that fills a text.  Beyond the standard it accepts the names `NaN`,
`Infinity` and `-Infinity` as numbers; a repeated field name keeps its first place and takes its
last value.

A fault is reported with its cause and its place (`ReadError`).  Inside the reader a place is the
number of characters that are left, so that no function has to carry an index; `ReadError.locate`
turns it into an offset, a line and a column.
-/

namespace ComponentLookup

namespace Json

/-- What is wrong at some place of a text. -/
inductive Cause where
  | value
  | fieldName
  | colon
  | comma
  | unterminated
  | controlCharacter
  | escape
  | unicodeEscape
  | extraData
  | byteOrderMark
  deriving DecidableEq

/-- The wording of a cause. -/
def Cause.text : Cause → String
  | .value => "Expecting value"
  | .fieldName => "Expecting property name enclosed in double quotes"
  | .colon => "Expecting ':' delimiter"
  | .comma => "Expecting ',' delimiter"
  | .unterminated => "Unterminated string starting at"
  | .controlCharacter => "Invalid control character at"
  | .escape => "Invalid \\escape"
  | .unicodeEscape => "Invalid \\uXXXX escape"
  | .extraData => "Extra data"
  | .byteOrderMark => "Unexpected UTF-8 BOM (decode using utf-8-sig)"

/-- A place in a text: the offset counts from zero, line and column from one. -/
structure Place where
  line : Nat
  column : Nat
  offset : Nat
  deriving DecidableEq

/-- The place behind the first `offset` characters of a text. -/
def Place.after (text : List Char) (offset : Nat) : Place :=
  let before := text.take offset
  { line := before.count '\n' + 1
    column := (before.reverse.takeWhile (· != '\n')).length + 1
    offset := offset }

/-- Why a text could not be read. -/
inductive ReadError where
  | malformed (cause : Cause) (place : Place)
  | integerTooLong (digits : Nat)
  deriving DecidableEq

/-- The longest integer numeral that is read, in digits. -/
def maxIntegerDigits : Nat := 4300

/-- The wording of an over-long integer numeral. -/
def integerTooLongText (digits : Nat) : String :=
  "Exceeds the limit (" ++ toString maxIntegerDigits ++
    " digits) for integer string conversion: value has " ++ toString digits ++
    " digits; use sys.set_int_max_str_digits() to increase the limit"

/-- The wording of an error. -/
def ReadError.message : ReadError → String
  | .malformed cause place =>
    cause.text ++ ": line " ++ toString place.line ++ " column " ++ toString place.column ++
      " (char " ++ toString place.offset ++ ")"
  | .integerTooLong digits => integerTooLongText digits

/-- A fault as the reader meets it: a cause with the number of characters left. -/
inductive Fault where
  | malformed (cause : Cause) (left : Nat)
  | integerTooLong (digits : Nat)

/-- A fault at the front of the rest. -/
def fault {α : Type} (cause : Cause) (rest : List Char) : Except Fault α :=
  .error (.malformed cause rest.length)

/-- The fault of a text, with its place worked out. -/
def ReadError.locate (text : List Char) : Fault → ReadError
  | .malformed cause left => .malformed cause (Place.after text (text.length - left))
  | .integerTooLong digits => .integerTooLong digits

/-! ### Blanks and digits -/

/-- The characters that may stand between tokens. -/
def isBlank (c : Char) : Bool := c == ' ' || c == '\t' || c == '\n' || c == '\r'

/-- Drops leading blanks. -/
def skipBlanks (text : List Char) : List Char := text.dropWhile isBlank

/-- The number that a list of decimal digits denotes. -/
def digitsValue (ds : List Char) : Nat :=
  ds.foldl (fun acc d => acc * 10 + (d.toNat - '0'.toNat)) 0

/-- The value of a hexadecimal digit. -/
def hexValue? (c : Char) : Option Nat :=
  if '0' ≤ c ∧ c ≤ '9' then some (c.toNat - 0x30)
  else if 'a' ≤ c ∧ c ≤ 'f' then some (c.toNat - 0x57)
  else if 'A' ≤ c ∧ c ≤ 'F' then some (c.toNat - 0x37)
  else none

/-- The value of four hexadecimal digits at the front. -/
def unit? : List Char → Option (Nat × List Char)
  | a :: b :: c :: d :: rest => do
    let a ← hexValue? a
    let b ← hexValue? b
    let c ← hexValue? c
    let d ← hexValue? d
    pure (((a * 16 + b) * 16 + c) * 16 + d, rest)
  | _ => none

/-! ### Strings -/

/-- The character of a 16-bit unit that stands alone; half a surrogate pair has none and becomes the
replacement character. -/
def unitChar (unit : Nat) : Char :=
  if unit.isValidChar then Char.ofNat unit else Char.ofNat 0xFFFD

/-- The unit is the first half of a surrogate pair. -/
def isHighSurrogate (unit : Nat) : Bool := 0xD800 ≤ unit && unit < 0xDC00

/-- The unit is the second half of a surrogate pair. -/
def isLowSurrogate (unit : Nat) : Bool := 0xDC00 ≤ unit && unit < 0xE000

/-- Four hexadecimal digits that something follows. -/
def escapedUnit (afterU : List Char) : Except Fault (Nat × List Char) :=
  match unit? afterU with
  | some (unit, c :: rest) => .ok (unit, c :: rest)
  | _ => .error (.malformed .unicodeEscape (afterU.length + 1))

/-- The character behind `\u`.  A high surrogate takes the escape behind it along if that one is a
low surrogate. -/
def unicodeEscape (afterU : List Char) : Except Fault (Char × List Char) := do
  let (high, rest) ← escapedUnit afterU
  if isHighSurrogate high then
    match rest with
    | '\\' :: 'u' :: more =>
      if more.length < 5 then .ok (unitChar high, rest)
      else
        let (low, rest') ← escapedUnit more
        if isLowSurrogate low then
          .ok (Char.ofNat (0x10000 + (high - 0xD800) * 0x400 + (low - 0xDC00)), rest')
        else .ok (unitChar high, rest)
    | _ => .ok (unitChar high, rest)
  else .ok (unitChar high, rest)

/-- The character that a letter behind a backslash stands for. -/
def letterEscape? : Char → Option Char
  | '"' => some '"'
  | '\\' => some '\\'
  | '/' => some '/'
  | 'b' => some '\x08'
  | 'f' => some '\x0c'
  | 'n' => some '\n'
  | 'r' => some '\r'
  | 't' => some '\t'
  | _ => none

/-- The rest of a string up to its closing quote.  `opening` is the number of characters left at the
opening quote, and `fuel` bounds the number of characters read. -/
def stringTail (opening : Nat) : Nat → List Char → Except Fault (List Char × List Char)
  | 0, _ => .error (.malformed .unterminated opening)
  | fuel + 1, text =>
    match text with
    | [] => .error (.malformed .unterminated opening)
    | '"' :: rest => .ok ([], rest)
    | ['\\'] => .error (.malformed .unterminated opening)
    | '\\' :: 'u' :: afterU => do
      let (c, rest) ← unicodeEscape afterU
      let (cs, rest) ← stringTail opening fuel rest
      .ok (c :: cs, rest)
    | '\\' :: letter :: rest =>
      match letterEscape? letter with
      | none => fault .escape text
      | some c => do
        let (cs, rest) ← stringTail opening fuel rest
        .ok (c :: cs, rest)
    | c :: rest =>
      if c.toNat < 0x20 then fault .controlCharacter text
      else do
        let (cs, rest) ← stringTail opening fuel rest
        .ok (c :: cs, rest)

/-- A string whose opening quote has been read. -/
def stringBody (afterQuote : List Char) : Except Fault (String × List Char) := do
  let (cs, rest) ← stringTail (afterQuote.length + 1) (afterQuote.length + 1) afterQuote
  .ok (String.ofList cs, rest)

/-! ### Numbers -/

/-- The fraction behind an integer part: a point and at least one digit. -/
def fractionDigits : List Char → List Char × List Char
  | '.' :: rest =>
    match rest.takeWhile Char.isDigit with
    | [] => ([], '.' :: rest)
    | ds => (ds, rest.dropWhile Char.isDigit)
  | text => ([], text)

/-- The exponent behind the digits of a number, if there is a complete one. -/
def exponent? (text : List Char) : Option (Int × List Char) :=
  match text with
  | [] => none
  | mark :: rest =>
    if mark = 'e' ∨ mark = 'E' then
      let (negative, rest) := match rest with
        | '-' :: r => (true, r)
        | '+' :: r => (false, r)
        | r => (false, r)
      match rest.takeWhile Char.isDigit with
      | [] => none
      | ds =>
        let e : Int := digitsValue ds
        some (if negative then -e else e, rest.dropWhile Char.isDigit)
    else none

/-- The integer part of a number: a single zero, or digits that do not start with one. -/
def integerDigits : List Char → List Char × List Char
  | '0' :: rest => (['0'], rest)
  | text => (text.takeWhile Char.isDigit, text.dropWhile Char.isDigit)

/-- A number at the front of `text`, whose sign has been read. -/
def unsignedNumber (negative : Bool) (start text : List Char) : Except Fault (Json × List Char) :=
  match integerDigits text with
  | ([], _) => fault .value start
  | (whole, rest) =>
    let (fraction, rest) := fractionDigits rest
    match exponent? rest with
    | some (e, rest) =>
      .ok (.float (.ofDecimal negative (digitsValue (whole ++ fraction))
        (e - (fraction.length : Int))), rest)
    | none =>
      match fraction with
      | [] =>
        if maxIntegerDigits < whole.length then .error (.integerTooLong whole.length)
        else
          let n : Int := digitsValue whole
          .ok (.int (if negative then -n else n), rest)
      | _ =>
        .ok (.float (.ofDecimal negative (digitsValue (whole ++ fraction))
          (-(fraction.length : Int))), rest)

/-- A number at the front of a text. -/
def number (text : List Char) : Except Fault (Json × List Char) :=
  match text with
  | '-' :: rest => unsignedNumber true text rest
  | _ => unsignedNumber false text text

/-! ### Values -/

/-- The values that are written as a word, and what is left behind it. -/
def word? : List Char → Option (Json × List Char)
  | 'n' :: 'u' :: 'l' :: 'l' :: rest => some (.null, rest)
  | 't' :: 'r' :: 'u' :: 'e' :: rest => some (.bool true, rest)
  | 'f' :: 'a' :: 'l' :: 's' :: 'e' :: rest => some (.bool false, rest)
  | 'N' :: 'a' :: 'N' :: rest => some (.float .nan, rest)
  | 'I' :: 'n' :: 'f' :: 'i' :: 'n' :: 'i' :: 't' :: 'y' :: rest =>
    some (.float (.infinity false), rest)
  | '-' :: 'I' :: 'n' :: 'f' :: 'i' :: 'n' :: 'i' :: 't' :: 'y' :: rest =>
    some (.float (.infinity true), rest)
  | _ => none

mutual

/-- A value at the front of a text.  `fuel` bounds the nesting and the lengths of containers
together. -/
def value : Nat → List Char → Except Fault (Json × List Char)
  | 0, text => fault .value text
  | fuel + 1, text =>
    match text with
    | '"' :: rest => do
      let (s, rest) ← stringBody rest
      .ok (.str s, rest)
    | '[' :: rest =>
      match skipBlanks rest with
      | ']' :: rest => .ok (.arr [], rest)
      | rest => do
        let (vs, rest) ← items fuel rest
        .ok (.arr vs, rest)
    | '{' :: rest =>
      match skipBlanks rest with
      | '}' :: rest => .ok (.obj [], rest)
      | rest => do
        let (fs, rest) ← fields fuel rest
        .ok (.obj (Fields.ofPairs fs), rest)
    | text =>
      match word? text with
      | some (v, rest) => .ok (v, rest)
      | none => number text

/-- One item of a list and those behind it, up to the closing bracket. -/
def items : Nat → List Char → Except Fault (List Json × List Char)
  | 0, text => fault .value text
  | fuel + 1, text => do
    let (v, rest) ← value fuel text
    match skipBlanks rest with
    | ']' :: rest => .ok ([v], rest)
    | ',' :: rest =>
      let (vs, rest) ← items fuel (skipBlanks rest)
      .ok (v :: vs, rest)
    | rest => fault .comma rest

/-- One field of an object and those behind it, up to the closing brace. -/
def fields : Nat → List Char → Except Fault (List (String × Json) × List Char)
  | 0, text => fault .fieldName text
  | fuel + 1, text =>
    match text with
    | '"' :: rest => do
      let (key, rest) ← stringBody rest
      match skipBlanks rest with
      | ':' :: rest =>
        let (v, rest) ← value fuel (skipBlanks rest)
        match skipBlanks rest with
        | '}' :: rest => .ok ([(key, v)], rest)
        | ',' :: rest =>
          let (fs, rest) ← fields fuel (skipBlanks rest)
          .ok ((key, v) :: fs, rest)
        | rest => fault .comma rest
      | rest => fault .colon rest
    | text => fault .fieldName text

end

/-- One value that fills a list of characters, blanks around it aside. -/
def document (text : List Char) : Except Fault Json := do
  let (v, rest) ← value (2 * text.length + 2) (skipBlanks text)
  match skipBlanks rest with
  | [] => .ok v
  | rest => fault .extraData rest

/-- Reads a decoded text. -/
def readChars (text : List Char) : Except ReadError Json :=
  (document text).mapError (ReadError.locate text)

/-- Reads a text; a byte order mark in front is refused. -/
def read (text : String) : Except ReadError Json :=
  let text := text.toList
  match text with
  | '\uFEFF' :: _ => .error (.malformed .byteOrderMark ⟨1, 1, 0⟩)
  | text => readChars text

end Json

end ComponentLookup
