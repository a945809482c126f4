import ComponentLookup.Json.Reader
import ComponentLookup.Toml.Basic

/-!
# Reading TOML

`Toml.read` reads a document.  Where a document is malformed is not told: a caller that cannot read
a document goes on without it.

Every function takes a text and gives what it has read together with the rest.
-/

namespace ComponentLookup

namespace Toml

open Json (digitsValue hexValue? maxIntegerDigits)

/-- Why a document cannot be read. -/
inductive Fault where
  | malformed
  /-- An integer numeral of this many digits. -/
  | integerTooLong (digits : Nat)
  deriving DecidableEq

/-- Nothing can be read. -/
def malformed {α : Type} : Except Fault α := .error .malformed

/-- A value that has to be there. -/
def required {α : Type} : Option α → Except Fault α
  | some a => .ok a
  | none => malformed

/-! ### Blanks and comments -/

/-- The text with `\n` for each `\r\n`. -/
def joinNewlines : List Char → List Char
  | '\r' :: '\n' :: rest => '\n' :: joinNewlines rest
  | c :: rest => c :: joinNewlines rest
  | [] => []

/-- A blank within a line. -/
def isBlank (c : Char) : Bool := c == ' ' || c == '\t'

/-- A blank or the end of a line. -/
def isGap (c : Char) : Bool := isBlank c || c == '\n'

/-- Drops blanks within a line. -/
def skipBlanks (text : List Char) : List Char := text.dropWhile isBlank

/-- The character may stand in a comment or in a string of one line. -/
def isPlain (c : Char) : Bool := c == '\t' || !(c.toNat < 0x20 || c.toNat == 0x7f)

/-- Drops a comment, up to the end of its line. -/
def skipComment (text : List Char) : Except Fault (List Char) :=
  match text with
  | '#' :: rest =>
    if (rest.takeWhile (· != '\n')).all isPlain then .ok (rest.dropWhile (· != '\n'))
    else malformed
  | text => .ok text

/-- Drops blanks, ends of lines and comments; `fuel` bounds the number of comments. -/
def skipGaps : Nat → List Char → Except Fault (List Char)
  | 0, text => .ok text
  | fuel + 1, text =>
    match text.dropWhile isGap with
    | '#' :: rest => do skipGaps fuel (← skipComment ('#' :: rest))
    | text => .ok text

/-! ### Strings -/

/-- The value of hexadecimal digits. -/
def hexDigitsValue? : List Char → Option Nat :=
  List.foldlM (fun acc c => (hexValue? c).map (acc * 16 + ·)) 0

/-- The character whose number the first `count` digits give. -/
def numbered (count : Nat) (text : List Char) : Except Fault (Char × List Char) := do
  let digits := text.take count
  if digits.length < count then malformed
  let n ← required (hexDigitsValue? digits)
  if n.isValidChar then .ok (Char.ofNat n, text.drop count) else malformed

/-- The character that a letter behind a backslash stands for. -/
def letterEscape? : Char → Option Char
  | 'b' => some '\x08'
  | 't' => some '\t'
  | 'n' => some '\n'
  | 'f' => some '\x0c'
  | 'r' => some '\r'
  | '"' => some '"'
  | '\\' => some '\\'
  | _ => none

/-- The escape behind a backslash. -/
def escape : List Char → Except Fault (Char × List Char)
  | 'u' :: rest => numbered 4 rest
  | 'U' :: rest => numbered 8 rest
  | c :: rest => do .ok (← required (letterEscape? c), rest)
  | [] => malformed

/-- The rest of a quoted string of one line; `fuel` bounds the number of its characters. -/
def quotedTail : Nat → List Char → Except Fault (List Char × List Char)
  | 0, _ => malformed
  | fuel + 1, text =>
    match text with
    | '"' :: rest => .ok ([], rest)
    | '\\' :: rest => do
      let (c, rest) ← escape rest
      let (cs, rest) ← quotedTail fuel rest
      .ok (c :: cs, rest)
    | c :: rest =>
      if isPlain c then do
        let (cs, rest) ← quotedTail fuel rest
        .ok (c :: cs, rest)
      else malformed
    | [] => malformed

/-- The text behind a backslash that ends a line: the blanks and line ends up to the next character
are dropped. -/
def joinLine (text : List Char) : Except Fault (List Char) :=
  match skipBlanks text with
  | '\n' :: rest => .ok (rest.dropWhile isGap)
  | [] => .ok []
  | _ => malformed

/-- The rest of a quoted string of several lines; `fuel` bounds the number of its characters. -/
def quotedLinesTail : Nat → List Char → Except Fault (List Char × List Char)
  | 0, _ => malformed
  | fuel + 1, text =>
    match text with
    | '"' :: '"' :: '"' :: rest => .ok ([], rest)
    | '\\' :: c :: rest =>
      if isGap c then do quotedLinesTail fuel (← joinLine (c :: rest))
      else do
        let (c, rest) ← escape (c :: rest)
        let (cs, rest) ← quotedLinesTail fuel rest
        .ok (c :: cs, rest)
    | c :: rest =>
      if isPlain c && c != '\\' || c == '\n' then do
        let (cs, rest) ← quotedLinesTail fuel rest
        .ok (c :: cs, rest)
      else malformed
    | [] => malformed

/-- The rest of a literal string of one line. -/
def literalTail (text : List Char) : Except Fault (List Char × List Char) :=
  let body := text.takeWhile (· != '\'')
  match text.dropWhile (· != '\'') with
  | _ :: rest => if body.all isPlain then .ok (body, rest) else malformed
  | [] => malformed

/-- The rest of a literal string of several lines. -/
def literalLinesTail : List Char → Except Fault (List Char × List Char)
  | '\'' :: '\'' :: '\'' :: rest => .ok ([], rest)
  | c :: rest =>
    if isPlain c || c == '\n' then do
      let (cs, rest) ← literalLinesTail rest
      .ok (c :: cs, rest)
    else malformed
  | [] => malformed

/-- A string of several lines may end with up to two more of its quotes. -/
def moreQuotes (quote : Char) (cs rest : List Char) : String × List Char :=
  let extra := (rest.take 2).takeWhile (· == quote)
  (String.ofList (cs ++ extra), rest.drop extra.length)

/-- The text without a line end at its front. -/
def skipLineEnd : List Char → List Char
  | '\n' :: rest => rest
  | text => text

/-- A string of one line whose opening quote has been read. -/
def quoted (rest : List Char) : Except Fault (String × List Char) := do
  let (cs, rest) ← quotedTail (rest.length + 1) rest
  .ok (String.ofList cs, rest)

/-- A literal string of one line whose opening quote has been read. -/
def literal (rest : List Char) : Except Fault (String × List Char) := do
  let (cs, rest) ← literalTail rest
  .ok (String.ofList cs, rest)

/-! ### Names -/

/-- The character may stand in a name without quotes. -/
def isNameChar (c : Char) : Bool := c.isAlphanum || c == '-' || c == '_'

/-- A simple name. -/
def name : List Char → Except Fault (String × List Char)
  | '"' :: rest => quoted rest
  | '\'' :: rest => literal rest
  | text =>
    match text.takeWhile isNameChar with
    | [] => malformed
    | cs => .ok (String.ofList cs, text.dropWhile isNameChar)

/-- Simple names with points between them, the last one apart; `fuel` bounds their number. -/
def dottedName : Nat → List Char → Except Fault ((List String × String) × List Char)
  | 0, _ => malformed
  | fuel + 1, text => do
    let (first, rest) ← name text
    match skipBlanks rest with
    | '.' :: rest =>
      let ((way, last), rest) ← dottedName fuel (skipBlanks rest)
      .ok ((first :: way, last), rest)
    | rest => .ok (([], first), rest)

/-! ### Numbers -/

/-- Digits with single underscores between them. -/
def groupedDigits (isDigit : Char → Bool) : List Char → List Char × List Char
  | '_' :: c :: rest =>
    if isDigit c then
      let (ds, rest) := groupedDigits isDigit rest
      (c :: ds, rest)
    else ([], '_' :: c :: rest)
  | c :: rest =>
    if isDigit c then
      let (ds, rest) := groupedDigits isDigit rest
      (c :: ds, rest)
    else ([], c :: rest)
  | [] => ([], [])

/-- Digits that start with one. -/
def leadingDigits? (isDigit : Char → Bool) (text : List Char) :
    Option (List Char × List Char) :=
  match text with
  | c :: _ => if isDigit c then some (groupedDigits isDigit text) else none
  | [] => none

/-- A sign that may be absent; the flag tells a minus. -/
def sign : List Char → Bool × List Char
  | '-' :: rest => (true, rest)
  | '+' :: rest => (false, rest)
  | text => (false, text)

/-- The base that a letter behind a zero announces. -/
def base? : Char → Option Nat
  | 'x' => some 16
  | 'o' => some 8
  | 'b' => some 2
  | _ => none

/-- The character is a digit to a base. -/
def isDigitTo (base : Nat) (c : Char) : Bool := (hexValue? c).any (· < base)

/-- An integer to another base than ten. -/
def basedInteger? : List Char → Option (Toml × List Char)
  | '0' :: letter :: rest => do
    let base ← base? letter
    let (ds, rest) ← leadingDigits? (isDigitTo base) rest
    let n := ds.foldl (fun acc d => acc * base + (hexValue? d).getD 0) 0
    some (.integer n, rest)
  | _ => none

/-- The integer part of a decimal number. -/
def wholeDigits? : List Char → Option (List Char × List Char)
  | '0' :: rest => some (['0'], rest)
  | text => leadingDigits? Char.isDigit text

/-- The digits behind a point. -/
def fractionDigits? : List Char → Option (List Char × List Char)
  | '.' :: rest => leadingDigits? Char.isDigit rest
  | _ => none

/-- An exponent. -/
def exponent? : List Char → Option (Int × List Char)
  | mark :: rest =>
    if mark = 'e' ∨ mark = 'E' then do
      let (negative, rest) := sign rest
      let (ds, rest) ← leadingDigits? Char.isDigit rest
      let e : Int := digitsValue ds
      some (if negative then -e else e, rest)
    else none
  | [] => none

/-- A decimal number, if there is one at the front. -/
def decimal? (text : List Char) : Option (Except Fault (Toml × List Char)) := do
  let (negative, rest) := sign text
  let (whole, rest) ← wholeDigits? rest
  let fraction := fractionDigits? rest
  let rest := (fraction.map (·.2)).getD rest
  let exponent := exponent? rest
  let rest := (exponent.map (·.2)).getD rest
  if fraction.isNone && exponent.isNone then
    if maxIntegerDigits < whole.length then some (.error (.integerTooLong whole.length))
    else
      let n : Int := digitsValue whole
      some (.ok (.integer (if negative then -n else n), rest))
  else
    let places := (fraction.map (·.1)).getD []
    let e := (exponent.map (·.1)).getD 0
    some (.ok (.float (.ofDecimal negative (digitsValue (whole ++ places)) (e - places.length)),
      rest))

/-- An infinity or not a number, with a sign that may be absent. -/
def namedNumber? (text : List Char) : Option (Toml × List Char) :=
  match sign text with
  | (negative, 'i' :: 'n' :: 'f' :: rest) => some (.float (.infinity negative), rest)
  | (_, 'n' :: 'a' :: 'n' :: rest) => some (.float .nan, rest)
  | _ => none

/-! ### Dates and times -/

/-- A number of a fixed count of digits within bounds. -/
def fixedDigits? (count low high : Nat) (text : List Char) : Option (Nat × List Char) :=
  let ds := text.take count
  let n := digitsValue ds
  if ds.length = count && ds.all Char.isDigit && low ≤ n && n ≤ high then
    some (n, text.drop count)
  else none

/-- The text behind a character that has to be there. -/
def behind? (c : Char) : List Char → Option (List Char)
  | d :: rest => if d = c then some rest else none
  | [] => none

/-- The year has a 29th of February. -/
def isLeapYear (year : Nat) : Bool := year % 4 == 0 && (year % 100 != 0 || year % 400 == 0)

/-- The number of days of a month. -/
def daysInMonth (year month : Nat) : Nat :=
  if month = 2 then (if isLeapYear year then 29 else 28)
  else if month = 4 ∨ month = 6 ∨ month = 9 ∨ month = 11 then 30
  else 31

/-- A date; the flag tells whether the calendar has it. -/
def date? (text : List Char) : Option (Bool × List Char) := do
  let (year, rest) ← fixedDigits? 4 0 9999 text
  let (month, rest) ← fixedDigits? 2 1 12 (← behind? '-' rest)
  let (day, rest) ← fixedDigits? 2 1 31 (← behind? '-' rest)
  some (1 ≤ year && day ≤ daysInMonth year month, rest)

/-- The text behind a time of the day. -/
def time? (text : List Char) : Option (List Char) := do
  let (_, rest) ← fixedDigits? 2 0 23 text
  let (_, rest) ← fixedDigits? 2 0 59 (← behind? ':' rest)
  let (_, rest) ← fixedDigits? 2 0 59 (← behind? ':' rest)
  match rest with
  | '.' :: d :: more => if d.isDigit then some (more.dropWhile Char.isDigit) else some rest
  | _ => some rest

/-- The text behind the offset of a time zone. -/
def zone? : List Char → Option (List Char)
  | 'Z' :: rest => some rest
  | 'z' :: rest => some rest
  | '+' :: rest => hoursAndMinutes? rest
  | '-' :: rest => hoursAndMinutes? rest
  | _ => none
where
  /-- The text behind hours and minutes. -/
  hoursAndMinutes? (text : List Char) : Option (List Char) := do
    let (_, rest) ← fixedDigits? 2 0 23 text
    let (_, rest) ← fixedDigits? 2 0 59 (← behind? ':' rest)
    some rest

/-- The text behind a time of the day that may follow a date. -/
def timeBehindDate (rest : List Char) : List Char :=
  match rest with
  | c :: more =>
    if c = 'T' ∨ c = 't' ∨ c = ' ' then
      match time? more with
      | some rest => (zone? rest).getD rest
      | none => rest
    else rest
  | [] => []

/-- A date, a time, or both, if there is one at the front. -/
def moment? (text : List Char) : Option (Except Fault (Toml × List Char)) :=
  match date? text with
  | some (true, rest) => some (.ok (.moment, timeBehindDate rest))
  | some (false, _) => some malformed
  | none => (time? text).map fun rest => .ok (.moment, rest)

/-! ### Values -/

/-- A value that is neither a string nor a container. -/
def plainValue (text : List Char) : Except Fault (Toml × List Char) :=
  match text with
  | 't' :: 'r' :: 'u' :: 'e' :: rest => .ok (.boolean true, rest)
  | 'f' :: 'a' :: 'l' :: 's' :: 'e' :: rest => .ok (.boolean false, rest)
  | text =>
    match moment? text with
    | some result => result
    | none =>
      match basedInteger? text with
      | some result => .ok result
      | none =>
        match decimal? text with
        | some result => result
        | none => required (namedNumber? text)

/-- Adds a value under a dotted name, in the section of a number, to the table behind a header. -/
def addEntry (header : List String) (part : Nat) (way : List String) (last : String) (value : Toml)
    (entries : Entries) : Except Fault Entries :=
  let steps := header.map (⟨·, none⟩) ++ way.map (⟨·, some part⟩)
  required (entries.extend? (·.addValue? last value) steps)

mutual

/-- A value.  `fuel` bounds the nesting and the lengths of containers together. -/
def value : Nat → List Char → Except Fault (Toml × List Char)
  | 0, _ => malformed
  | fuel + 1, text =>
    match text with
    | '"' :: '"' :: '"' :: rest => do
      let (cs, rest) ← quotedLinesTail (rest.length + 1) (skipLineEnd rest)
      let (s, rest) := moreQuotes '"' cs rest
      .ok (.string s, rest)
    | '"' :: rest => do
      let (s, rest) ← quoted rest
      .ok (.string s, rest)
    | '\'' :: '\'' :: '\'' :: rest => do
      let (cs, rest) ← literalLinesTail (skipLineEnd rest)
      let (s, rest) := moreQuotes '\'' cs rest
      .ok (.string s, rest)
    | '\'' :: rest => do
      let (s, rest) ← literal rest
      .ok (.string s, rest)
    | '[' :: rest => do
      let (items, rest) ← items fuel rest
      .ok (.array items, rest)
    | '{' :: rest =>
      match skipBlanks rest with
      | '}' :: rest => .ok (.table .inline [], rest)
      | rest => do
        let (entries, rest) ← inlineEntries fuel [] rest
        .ok (.table .inline entries, rest)
    | text => plainValue text

/-- The items of an array up to the closing bracket; a comma may follow the last one. -/
def items : Nat → List Char → Except Fault (List Toml × List Char)
  | 0, _ => malformed
  | fuel + 1, text => do
    match ← skipGaps text.length text with
    | ']' :: rest => .ok ([], rest)
    | rest =>
      let (v, rest) ← value fuel rest
      match ← skipGaps rest.length rest with
      | ']' :: rest => .ok ([v], rest)
      | ',' :: rest =>
        let (vs, rest) ← items fuel rest
        .ok (v :: vs, rest)
      | _ => malformed

/-- The entries of a table in braces up to the closing brace, behind those already read. -/
def inlineEntries : Nat → Entries → List Char → Except Fault (Entries × List Char)
  | 0, _, _ => malformed
  | fuel + 1, entries, text => do
    let ((way, last), rest) ← dottedName (text.length + 1) text
    match rest with
    | '=' :: rest =>
      let (v, rest) ← value fuel (skipBlanks rest)
      let entries ← addEntry [] 0 way last v entries
      match skipBlanks rest with
      | '}' :: rest => .ok (entries, rest)
      | ',' :: rest => inlineEntries fuel entries (skipBlanks rest)
      | _ => malformed
    | _ => malformed

end

/-! ### Documents -/

/-- A document as far as it has been read: its entries, the header of the present section, and the
number of that section. -/
structure Draft where
  entries : Entries
  header : List String
  part : Nat

namespace Draft

/-- The draft with the section that a header opens. -/
def openSection (d : Draft) (way : List String) (last : String)
    (change : String → Entries → Option Entries) : Except Fault Draft := do
  let entries ← required (d.entries.extend? (change last) (way.map (⟨·, none⟩)))
  .ok { entries, header := way ++ [last], part := d.part + 1 }

/-- The statement at the front of a text that starts with neither a blank, a comment nor a line end.
-/
def statement (d : Draft) (text : List Char) : Except Fault (Draft × List Char) :=
  match text with
  | '[' :: '[' :: rest => do
    let ((way, last), rest) ← dottedName (rest.length + 1) (skipBlanks rest)
    match rest with
    | ']' :: ']' :: rest => .ok (← d.openSection way last Entries.openNext?, rest)
    | _ => malformed
  | '[' :: rest => do
    let ((way, last), rest) ← dottedName (rest.length + 1) (skipBlanks rest)
    match rest with
    | ']' :: rest => .ok (← d.openSection way last Entries.openTable?, rest)
    | _ => malformed
  | text => do
    let ((way, last), rest) ← dottedName (text.length + 1) text
    match rest with
    | '=' :: rest =>
      let (v, rest) ← value (2 * rest.length + 2) (skipBlanks rest)
      .ok ({ d with entries := ← addEntry d.header d.part way last v d.entries }, rest)
    | _ => malformed

/-- Reads the lines of a text; `fuel` bounds their number. -/
def lines : Nat → Draft → List Char → Except Fault Entries
  | 0, _, _ => malformed
  | fuel + 1, d, text => do
    let text := skipBlanks text
    let (d, rest) ← match text with
      | [] => .ok (d, [])
      | '\n' :: _ => .ok (d, text)
      | '#' :: _ => .ok (d, text)
      | _ => d.statement text
    match ← skipComment (skipBlanks rest) with
    | [] => .ok d.entries
    | '\n' :: rest => lines fuel d rest
    | _ => malformed

end Draft

/-- Reads a document. -/
def read (text : List Char) : Except Fault Entries :=
  let text := joinNewlines text
  Draft.lines (text.length + 1) { entries := [], header := [], part := 0 } text

end Toml

end ComponentLookup
