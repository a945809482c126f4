import ComponentLookup.Json.Reader
import ComponentLookup.Numeral.Binary64
import ComponentLookup.Text.Blank
import ComponentLookup.Text.CharacterNames
import ComponentLookup.Text.Digit
import ComponentLookup.Text.Encoding

/-!
# Literal arguments

The argument of a handler tag is a literal: a number with a sign or a complex sum, a quoted text,
a constant, or a tuple, set or table of literals.  Whether an argument is one is all that counts
(`isLiteral`), for handlers are not run.

A literal is read in two steps.  `Token.scan` cuts the text into tokens; inside brackets a line may
end anywhere.  `Expression.read` builds an expression from them, and `Expression.isLiteral` says
whether it denotes a value: a set and the keys of a table must not hold sets or tables, and the
whole number in front of a complex sum has to be within the range of doubles.
-/

namespace ComponentLookup.Console.Literal

open Text

/-! ### Tokens -/

/-- The kinds of numbers. -/
inductive NumberKind where
  | real
  /-- A whole number beyond all doubles. -/
  | huge
  | imaginary
  deriving DecidableEq

/-- The kind of a whole number. -/
def NumberKind.ofWhole (n : Nat) : NumberKind :=
  match Binary64.ofRatio false n 1 with
  | .infinity _ => .huge
  | _ => .real

/-- A token of a literal. -/
inductive Token where
  | number (kind : NumberKind)
  | text
  | bytes
  | constant
  /-- The name `set`, which makes an empty set in front of a pair of brackets. -/
  | setName
  | plus
  | minus
  | comma
  | colon
  | roundOpen
  | roundClose
  | curlyOpen
  | curlyClose
  | lineEnd
  deriving DecidableEq

namespace Token

/-- The character may stand in a name or behind the digits of a number. -/
def joins (c : Char) : Bool := c.isAlphanum || c == '_' || 0x80 ≤ c.toNat

/-- Digits with single underscores between them, and what follows; an underscore counts only between
digits. -/
def digitRun (isDigit : Char → Bool) : List Char → List Char × List Char
  | d :: '_' :: next :: rest =>
    if isDigit d then
      if isDigit next then
        let (ds, after) := digitRun isDigit (next :: rest)
        (d :: ds, after)
      else ([d], '_' :: next :: rest)
    else ([], d :: '_' :: next :: rest)
  | d :: rest =>
    if isDigit d then
      let (ds, after) := digitRun isDigit rest
      (d :: ds, after)
    else ([], d :: rest)
  | [] => ([], [])

/-- The value of digits in a base. -/
def valueIn (base : Nat) (digits : List Char) : Nat :=
  digits.foldl (fun n d => n * base + (Json.hexValue? d).getD 0) 0

/-- The digits of a number in a base, which an underscore may precede. -/
def based? (base : Nat) (text : List Char) : Option (NumberKind × List Char) :=
  let text := match text with
    | '_' :: rest => rest
    | rest => rest
  match digitRun (fun d => (Json.hexValue? d).any (· < base)) text with
  | ([], _) => none
  | (digits, rest) => some (.ofWhole (valueIn base digits), rest)

/-- The digits of a decimal exponent, if there is one, are left out. -/
def skipExponent (text : List Char) : Bool × List Char :=
  match text with
  | e :: rest =>
    if e = 'e' || e = 'E' then
      let digits := match rest with
        | '+' :: rest => rest
        | '-' :: rest => rest
        | rest => rest
      match digitRun Char.isDigit digits with
      | ([], _) => (false, text)
      | (_, after) => (true, after)
    else (false, text)
  | [] => (false, [])

/-- A decimal number.  A whole number has no zeros in front and at most 4300 digits. -/
def decimal? (text : List Char) : Option (NumberKind × List Char) :=
  let (whole, rest) := digitRun Char.isDigit text
  let (point, rest) := match rest with
    | '.' :: rest => (true, (digitRun Char.isDigit rest).2)
    | rest => (false, rest)
  let (exponent, rest) := skipExponent rest
  match rest with
  | c :: after =>
    if c = 'j' || c = 'J' then some (.imaginary, after)
    else finish whole (point || exponent) rest
  | [] => finish whole (point || exponent) rest
where
  /-- A number that is not imaginary. -/
  finish (whole : List Char) (fractional : Bool) (rest : List Char) :
      Option (NumberKind × List Char) :=
    if fractional then some (.real, rest)
    else if whole.head? = some '0' && whole.any (· != '0') then none
    else if Json.maxIntegerDigits < whole.length then none
    else some (.ofWhole (valueIn 10 whole), rest)

/-- A number: its kind, and what follows. -/
def number? (text : List Char) : Option (NumberKind × List Char) := do
  let (kind, rest) ← match text with
    | '0' :: c :: rest =>
      if c = 'x' || c = 'X' then based? 16 rest
      else if c = 'o' || c = 'O' then based? 8 rest
      else if c = 'b' || c = 'B' then based? 2 rest
      else decimal? text
    | text => decimal? text
  if rest.head?.any joins then none else some (kind, rest)

/-- How many hexadecimal digits an escape has behind its letter. -/
def escapeDigits (binary : Bool) : Char → Nat
  | 'x' => 2
  | 'u' => if binary then 0 else 4
  | 'U' => if binary then 0 else 8
  | _ => 0

/-- Every escape of a quoted text is complete. -/
def escapesComplete (binary : Bool) : List Char → Bool
  | '\\' :: c :: rest =>
    let digits := rest.take (escapeDigits binary c)
    digits.length == escapeDigits binary c && digits.all (fun d => (Json.hexValue? d).isSome) &&
      valueIn 16 digits < 0x110000 && (c != 'N' || binary || isNamed rest) &&
      escapesComplete binary rest
  | _ :: rest => escapesComplete binary rest
  | [] => true
where
  /-- The name of a character follows in braces. -/
  isNamed : List Char → Bool
    | '\x7b' :: rest =>
      rest.contains '\x7d' && isCharacterName (rest.takeWhile (· != '\x7d'))
    | _ => false

/-- The inside of a quoted text up to the closing quotes, and what follows them.  A backslash takes
the next character with it, and only three quotes hold line ends. -/
def quotedTail? (quote : Char) (triple : Bool) : List Char → Option (List Char × List Char)
  | [] => none
  | '\\' :: c :: rest =>
    (quotedTail? quote triple rest).map fun (cs, after) => ('\\' :: c :: cs, after)
  | c :: rest =>
    if c = '\n' && !triple then none
    else if c = quote && (!triple || rest.take 2 = [quote, quote]) then
      some ([], if triple then rest.drop 2 else rest)
    else (quotedTail? quote triple rest).map fun (cs, after) => (c :: cs, after)

/-- The token for a quoted text behind its mark, and what follows. -/
def quoted? (mark : String) (text : List Char) : Option (Token × List Char) := do
  let raw := mark.toList.contains 'r'
  let binary := mark.toList.contains 'b'
  let (cs, rest) ← match text with
    | quote :: rest =>
      if rest.take 2 = [quote, quote] then quotedTail? quote true (rest.drop 2)
      else quotedTail? quote false rest
    | [] => none
  if binary && !cs.all (fun c => c.toNat < 0x80) then none
  else if raw || escapesComplete binary cs then some (if binary then .bytes else .text, rest)
  else none

/-- The marks in front of a quoted text. -/
def marks : List String := ["", "r", "u", "b", "br", "rb"]

/-- The token for a word, or for a quoted text that has the word in front. -/
def word? (text : List Char) : Option (Token × List Char) :=
  let word := String.ofList (text.takeWhile joins)
  let rest := text.dropWhile joins
  let mark := String.ofList ((text.takeWhile joins).map Char.toLower)
  if (rest.head? = some '"' || rest.head? = some '\'') && marks.contains mark then quoted? mark rest
  else if ["True", "False", "None"].contains word then some (.constant, rest)
  else if word = "set" then some (.setName, rest)
  else none

/-- The token at the beginning of a text, and what follows. -/
def next? (text : List Char) : Option (Token × List Char) :=
  match text with
  | '+' :: rest => some (.plus, rest)
  | '-' :: rest => some (.minus, rest)
  | ',' :: rest => some (.comma, rest)
  | ':' :: rest => some (.colon, rest)
  | '(' :: rest => some (.roundOpen, rest)
  | ')' :: rest => some (.roundClose, rest)
  | '\x7b' :: rest => some (.curlyOpen, rest)
  | '\x7d' :: rest => some (.curlyClose, rest)
  | '.' :: '.' :: '.' :: rest => some (.constant, rest)
  | '.' :: d :: _ =>
    if d.isDigit then (number? text).map fun (kind, rest) => (.number kind, rest)
    else none
  | c :: _ =>
    if c.isDigit then (number? text).map fun (kind, rest) => (.number kind, rest)
    else word? text
  | [] => none

/-- Brackets may be nested this deep. -/
def maxDepth : Nat := 200

/-- The depth of brackets behind a token. -/
def depthBehind (depth : Nat) : Token → Nat
  | .roundOpen | .curlyOpen => depth + 1
  | .roundClose | .curlyClose => depth - 1
  | _ => depth

/-- The character is a gap between tokens of one line. -/
def isGap (c : Char) : Bool := c == ' ' || c == '\t'

/-- A line goes on behind a gap with nothing that has to stand at its beginning: it ends, or a form
feed begins it anew. -/
def mayIndent (rest : List Char) : Bool :=
  match rest.dropWhile isGap with
  | [] => true
  | c :: _ => c == '\n' || c == '#' || c == '\x0c'

/-- The tokens of a text at some depth of brackets.  Outside of brackets a line with a token on it
begins without a gap. -/
def scan : Nat → Bool → Nat → List Char → Option (List Token)
  | 0, _, _, _ => none
  | _ + 1, _, _, [] => some []
  | fuel + 1, lineStart, depth, c :: rest =>
    if c = '#' then scan fuel lineStart depth (rest.dropWhile (· != '\n'))
    else if c = '\n' then
      if depth = 0 && !lineStart then (scan fuel true depth rest).map (.lineEnd :: ·)
      else scan fuel lineStart depth rest
    else if isGap c then
      if lineStart && depth = 0 && !mayIndent rest then none else scan fuel lineStart depth rest
    else if c = '\x0c' then scan fuel lineStart depth rest
    else if c = '\\' then
      if rest.head? = some '\n' && rest.length ≠ 1 then scan fuel lineStart depth (rest.drop 1)
      else none
    else
      match next? (c :: rest) with
      | none => none
      | some (token, rest) =>
        if maxDepth < depthBehind depth token then none
        else (scan fuel false (depthBehind depth token) rest).map (token :: ·)

end Token

/-! ### Expressions -/

/-- What tokens of a literal can be put together to. -/
inductive Expression where
  | number (kind : NumberKind)
  | text
  | constant
  | setName
  | call (function : Expression)
  | signed (operand : Expression)
  | sum (left right : Expression)
  | tuple (items : List Expression)
  | set (items : List Expression)
  | table (entries : List (Expression × Expression))

namespace Expression

/-- A real number to which an imaginary one can be added, with a sign or without. -/
def isReal : Expression → Bool
  | .number kind => kind == .real
  | .signed (.number kind) => kind == .real
  | _ => false

mutual

/-- The expression denotes a value. -/
def isLiteral : Expression → Bool
  | .number _ | .text | .constant => true
  | .setName => false
  | .call .setName => true
  | .call _ => false
  | .signed (.number _) => true
  | .signed _ => false
  | .sum left (.number .imaginary) => left.isReal
  | .sum _ _ => false
  | .tuple items => areLiterals items
  | .set items => areLiterals items && areKeys items
  | .table entries => areEntries entries

/-- All expressions denote values. -/
def areLiterals : List Expression → Bool
  | [] => true
  | e :: rest => isLiteral e && areLiterals rest

/-- All entries of a table have a key and a value. -/
def areEntries : List (Expression × Expression) → Bool
  | [] => true
  | (key, value) :: rest => isLiteral key && isKey key && isLiteral value && areEntries rest

/-- The value of the expression can be a key, and a member of a set. -/
def isKey : Expression → Bool
  | .call _ | .set _ | .table _ => false
  | .tuple items => areKeys items
  | _ => true

/-- The values of all expressions can be keys. -/
def areKeys : List Expression → Bool
  | [] => true
  | e :: rest => isKey e && areKeys rest

end

/-! ### Reading expressions -/

/-- Pairs of round brackets behind an expression call it. -/
def calls (function : Expression) : List Token → Expression × List Token
  | .roundOpen :: .roundClose :: rest => calls (.call function) rest
  | rest => (function, rest)

mutual

/-- An expression, and the tokens behind it. -/
def value? : Nat → List Token → Option (Expression × List Token)
  | 0, _ => none
  | fuel + 1, tokens => do
    let (first, rest) ← operand? fuel tokens
    terms? fuel first rest

/-- What is added to an expression. -/
def terms? : Nat → Expression → List Token → Option (Expression × List Token)
  | 0, _, _ => none
  | fuel + 1, left, tokens =>
    match tokens with
    | .plus :: rest | .minus :: rest => do
      let (right, rest) ← operand? fuel rest
      terms? fuel (.sum left right) rest
    | rest => some (left, rest)

/-- An expression that is no sum. -/
def operand? : Nat → List Token → Option (Expression × List Token)
  | 0, _ => none
  | fuel + 1, tokens =>
    match tokens with
    | .plus :: rest | .minus :: rest =>
      (operand? fuel rest).map fun (operand, rest) => (.signed operand, rest)
    | .number kind :: rest => some (calls (.number kind) rest)
    | .text :: rest => some (calls .text (rest.dropWhile (· == .text)))
    | .bytes :: rest => some (calls .text (rest.dropWhile (· == .bytes)))
    | .constant :: rest => some (calls .constant rest)
    | .setName :: rest => some (calls .setName rest)
    | .roundOpen :: .roundClose :: rest => some (calls (.tuple []) rest)
    | .roundOpen :: rest => do
      let (first, rest) ← value? fuel rest
      match rest with
      | .roundClose :: rest => some (calls first rest)
      | rest =>
        let (items, rest) ← items? fuel .roundClose rest
        some (calls (.tuple (first :: items)) rest)
    | .curlyOpen :: .curlyClose :: rest => some (calls (.table []) rest)
    | .curlyOpen :: rest => do
      let (first, rest) ← value? fuel rest
      match rest with
      | .colon :: rest =>
        let (second, rest) ← value? fuel rest
        let (entries, rest) ← entries? fuel rest
        some (calls (.table ((first, second) :: entries)) rest)
      | rest =>
        let (items, rest) ← items? fuel .curlyClose rest
        some (calls (.set (first :: items)) rest)
    | _ => none

/-- Further items behind commas up to a closing bracket; the last comma may stand alone. -/
def items? : Nat → Token → List Token → Option (List Expression × List Token)
  | 0, _, _ => none
  | fuel + 1, close, tokens =>
    match tokens with
    | .comma :: token :: rest =>
      if token = close then some ([], rest)
      else do
        let (item, rest) ← value? fuel (token :: rest)
        let (items, rest) ← items? fuel close rest
        some (item :: items, rest)
    | token :: rest => if token = close then some ([], rest) else none
    | [] => none

/-- Further entries behind commas up to the end of the table. -/
def entries? : Nat → List Token → Option (List (Expression × Expression) × List Token)
  | 0, _ => none
  | fuel + 1, tokens =>
    match tokens with
    | .comma :: .curlyClose :: rest | .curlyClose :: rest => some ([], rest)
    | .comma :: rest => do
      let (key, rest) ← value? fuel rest
      match rest with
      | .colon :: rest =>
        let (value, rest) ← value? fuel rest
        let (entries, rest) ← entries? fuel rest
        some ((key, value) :: entries, rest)
      | _ => none
    | _ => none

end

/-- The expression that all tokens make up; without brackets, commas make a tuple as well. -/
def read? (tokens : List Token) : Option Expression :=
  let tokens := (tokens.reverse.dropWhile (· == .lineEnd)).reverse
  let fuel := 3 * tokens.length + 3
  match value? fuel tokens with
  | none => none
  | some (e, []) => some e
  | some (first, rest) =>
    match items? fuel .lineEnd (rest ++ [.lineEnd]) with
    | some (items, []) => some (.tuple (first :: items))
    | _ => none

end Expression

/-- The text is a literal. -/
def isLiteral (text : List Char) : Bool :=
  let text := normalizeNewlines text
  !text.contains '\x00' &&
    ((Token.scan (text.length + 1) true 0 text).bind Expression.read?).any Expression.isLiteral

/-- The text can be the argument of a handler tag: the name of a function, with a tuple of literals
behind it or not, or a literal. -/
def isHandler (text : List Char) : Bool :=
  let text := ((text.dropWhile isBlank).reverse.dropWhile isBlank).reverse
  let behind := text.dropWhile fun c => isWordChar c || c == '.'
  match behind with
  | [] => true
  | '(' :: _ =>
    if behind.getLast? = some ')' && !behind.contains '\n' then isLiteral behind else isLiteral text
  | _ => isLiteral text

end ComponentLookup.Console.Literal
