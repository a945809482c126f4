import ComponentLookup.Json.Basic
import ComponentLookup.Numeral.Shortest

/-!
# Writing JSON

`Json.write` gives the text of a value in ASCII: on one line, or with each item and field on a
line of its own, indented by its depth (`Indent`).  Fields keep their order, and characters outside
printable ASCII are written as escapes of their 16-bit units.

Integers are written however long they are.  None that was read has more than
`Json.maxIntegerDigits` digits; `Json.Strict.write` is the writer that fails at the others.
-/

namespace ComponentLookup

namespace Json

/-- How a value is spread over lines: not at all, or with some number of blanks for each level. -/
abbrev Indent := Option Nat

/-! ### Leaves -/

/-- The decimal digits of an integer, with a sign if it is negative. -/
def integerChars (n : Int) : List Char :=
  if n < 0 then '-' :: Nat.toDigits 10 n.natAbs else Nat.toDigits 10 n.natAbs

/-- The hexadecimal digit of a number below 16, in lower case. -/
def hexDigit (n : Nat) : Char :=
  if n < 10 then Char.ofNat (0x30 + n) else Char.ofNat (0x57 + n)

/-- The last `width` hexadecimal digits of a number. -/
def hexChars (width n : Nat) : List Char :=
  (List.range width).reverse.map fun i => hexDigit (n / Nat.pow 16 i % 16)

/-- The escape of one 16-bit unit. -/
def unitEscape (unit : Nat) : List Char := '\\' :: 'u' :: hexChars 4 unit

/-- A character as it stands between quotes. -/
def charEscape (c : Char) : List Char :=
  if c = '"' then ['\\', '"']
  else if c = '\\' then ['\\', '\\']
  else if c = '\n' then ['\\', 'n']
  else if c = '\r' then ['\\', 'r']
  else if c = '\t' then ['\\', 't']
  else if c = '\x0c' then ['\\', 'f']
  else if c = '\x08' then ['\\', 'b']
  else if 0x20 ≤ c.toNat ∧ c.toNat ≤ 0x7e then [c]
  else if c.toNat < 0x10000 then unitEscape c.toNat
  else
    unitEscape (0xD800 + (c.toNat - 0x10000) / 0x400) ++
      unitEscape (0xDC00 + (c.toNat - 0x10000) % 0x400)

/-- A text between quotes. -/
def quotedChars (s : String) : List Char :=
  '"' :: (s.toList.flatMap charEscape ++ ['"'])

/-- A double; the values without digits keep their conventional names. -/
def floatChars (x : Binary64) : List Char :=
  (x.numeral "NaN" "Infinity").toList

/-! ### Containers -/

/-- What stands before an item or a closing bracket at the given depth. -/
def lineBreak (indent : Indent) (depth : Nat) : List Char :=
  match indent with
  | none => []
  | some n => '\n' :: List.replicate (n * depth) ' '

/-- What stands between two items at the given depth. -/
def separator (indent : Indent) (depth : Nat) : List Char :=
  match indent with
  | none => [',', ' ']
  | some _ => ',' :: lineBreak indent depth

mutual

/-- The characters of a value whose items stand one level below `depth`. -/
def chars (indent : Indent) (depth : Nat) : Json → List Char
  | .null => ['n', 'u', 'l', 'l']
  | .bool true => ['t', 'r', 'u', 'e']
  | .bool false => ['f', 'a', 'l', 's', 'e']
  | .int n => integerChars n
  | .float x => floatChars x
  | .str s => quotedChars s
  | .arr [] => ['[', ']']
  | .arr (v :: rest) =>
    '[' :: lineBreak indent (depth + 1) ++ chars indent (depth + 1) v ++
      itemsChars indent (depth + 1) rest ++ lineBreak indent depth ++ [']']
  | .obj [] => ['{', '}']
  | .obj ((key, v) :: rest) =>
    '{' :: lineBreak indent (depth + 1) ++ quotedChars key ++ [':', ' '] ++
      chars indent (depth + 1) v ++ fieldsChars indent (depth + 1) rest ++
      lineBreak indent depth ++ ['}']

/-- The items after the first one, each behind a separator. -/
def itemsChars (indent : Indent) (depth : Nat) : List Json → List Char
  | [] => []
  | v :: rest => separator indent depth ++ chars indent depth v ++ itemsChars indent depth rest

/-- The fields after the first one, each behind a separator. -/
def fieldsChars (indent : Indent) (depth : Nat) : List (String × Json) → List Char
  | [] => []
  | (key, v) :: rest =>
    separator indent depth ++ quotedChars key ++ [':', ' '] ++ chars indent depth v ++
      fieldsChars indent depth rest

end

/-- The text of a value. -/
def write (indent : Indent) (v : Json) : String := String.ofList (chars indent 0 v)

/-- The number of blanks for each level; a negative one counts as none. -/
def Indent.ofInt? (n : Option Int) : Indent := n.map Int.toNat

end Json

end ComponentLookup
