/-!
# Decoding bytes

Text arrives as bytes in one of the Unicode encodings forms.  A decoder either gives the characters
or the first fault, with its position, its extent and a reason (`DecodeFault`).

Bytes are natural numbers.  A code point that is half of a surrogate pair is no character; where a
decoder is told to let such code points pass, the replacement character stands for each.

`detect` finds out the encoding of a JSON text from its first bytes.
-/

namespace ComponentLookup

/-- The encodings. -/
inductive Encoding where
  | utf8
  | utf8Signed
  | utf16 (bigEndian : Bool)
  | utf16Marked
  | utf32 (bigEndian : Bool)
  | utf32Marked
  deriving DecidableEq

/-- Why bytes are no text. -/
inductive DecodeFault.Reason where
  | invalidStart
  | invalidContinuation
  | unexpectedEnd
  | truncated
  | outOfRange
  deriving DecidableEq

/-- The wording of a reason. -/
def DecodeFault.Reason.text : DecodeFault.Reason → String
  | .invalidStart => "invalid start byte"
  | .invalidContinuation => "invalid continuation byte"
  | .unexpectedEnd => "unexpected end of data"
  | .truncated => "truncated data"
  | .outOfRange => "code point not in range(0x110000)"

/-- Bytes that are no text: the first of them, its position and their number. -/
structure DecodeFault where
  encoding : String
  byte : Nat
  position : Nat
  length : Nat
  reason : DecodeFault.Reason
  deriving DecidableEq

namespace DecodeFault

/-- Two hexadecimal digits. -/
def hexByte (n : Nat) : String :=
  String.ofList ((Nat.toDigits 16 (n / 16 % 16)) ++ Nat.toDigits 16 (n % 16))

/-- The wording of a fault. -/
def message (f : DecodeFault) : String :=
  "'" ++ f.encoding ++ "' codec can't decode " ++
    (if f.length = 1 then
      "byte 0x" ++ hexByte f.byte ++ " in position " ++ toString f.position
    else
      "bytes in position " ++ toString f.position ++ "-" ++ toString (f.position + f.length - 1)) ++
    ": " ++ f.reason.text

end DecodeFault

namespace Encoding

/-- The result of looking at the front of some bytes: a code point with the number of bytes it
takes, or a reason with the number of bytes at fault. -/
inductive Front where
  | point (n length : Nat)
  | fault (length : Nat) (reason : DecodeFault.Reason)

/-- The character of a code point; half of a surrogate pair becomes the replacement character. -/
def charOf (n : Nat) : Char := if n.isValidChar then Char.ofNat n else Char.ofNat 0xFFFD

/-! ### UTF-8 -/

/-- The byte continues a character. -/
def isTail (b : Nat) : Bool := 0x80 ≤ b && b < 0xC0

/-- The range of the second byte of a character of three bytes or more. -/
def secondRange (first : Nat) : Nat × Nat :=
  if first = 0xE0 then (0xA0, 0xBF)
  else if first = 0xED then (0x80, 0x9F)
  else if first = 0xF0 then (0x90, 0xBF)
  else if first = 0xF4 then (0x80, 0x8F)
  else (0x80, 0xBF)

/-- The second byte can stand behind the first one. -/
def isSecond (first second : Nat) : Bool :=
  (secondRange first).1 ≤ second && second ≤ (secondRange first).2

/-- The character at the front of bytes in UTF-8. -/
def utf8Front (first : Nat) (rest : List Nat) : Front :=
  if first < 0x80 then .point first 1
  else if first < 0xC2 then .fault 1 .invalidStart
  else if first < 0xE0 then
    match rest with
    | b :: _ =>
      if isTail b then .point ((first - 0xC0) * 0x40 + (b - 0x80)) 2
      else .fault 1 .invalidContinuation
    | [] => .fault 1 .unexpectedEnd
  else if first < 0xF0 then
    match rest with
    | [] => .fault 1 .unexpectedEnd
    | b :: rest =>
      if isSecond first b then
        match rest with
        | [] => .fault 2 .unexpectedEnd
        | c :: _ =>
          if isTail c then
            .point ((first - 0xE0) * 0x1000 + (b - 0x80) * 0x40 + (c - 0x80)) 3
          else .fault 2 .invalidContinuation
      else .fault 1 .invalidContinuation
  else if first < 0xF5 then
    match rest with
    | [] => .fault 1 .unexpectedEnd
    | b :: rest =>
      if isSecond first b then
        match rest with
        | [] => .fault 2 .unexpectedEnd
        | c :: rest =>
          if isTail c then
            match rest with
            | [] => .fault 3 .unexpectedEnd
            | d :: _ =>
              if isTail d then
                .point ((first - 0xF0) * 0x40000 + (b - 0x80) * 0x1000 + (c - 0x80) * 0x40 +
                  (d - 0x80)) 4
              else .fault 3 .invalidContinuation
          else .fault 2 .invalidContinuation
      else .fault 1 .invalidContinuation
  else .fault 1 .invalidStart

/-- The character at the front, where encoded halves of surrogate pairs pass. -/
def utf8LaxFront (first : Nat) (rest : List Nat) : Front :=
  match first, rest with
  | 0xED, b :: c :: _ =>
    if 0xA0 ≤ b && b < 0xC0 && isTail c then
      .point (0xD000 + (b - 0x80) * 0x40 + (c - 0x80)) 3
    else utf8Front first rest
  | _, _ => utf8Front first rest

/-! ### Fixed-width units -/

/-- The number that two bytes make. -/
def unit16 (bigEndian : Bool) (a b : Nat) : Nat :=
  if bigEndian then a * 0x100 + b else b * 0x100 + a

/-- The character at the front of bytes in UTF-16, where lone halves of surrogate pairs pass. -/
def utf16Front (bigEndian : Bool) (first : Nat) (rest : List Nat) : Front :=
  match rest with
  | [] => .fault 1 .truncated
  | b :: more =>
    let high := unit16 bigEndian first b
    if 0xD800 ≤ high ∧ high < 0xDC00 then
      match more with
      | c :: d :: _ =>
        let low := unit16 bigEndian c d
        if 0xDC00 ≤ low ∧ low < 0xE000 then
          .point (0x10000 + (high - 0xD800) * 0x400 + (low - 0xDC00)) 4
        else .point high 2
      | _ => .point high 2
    else .point high 2

/-- The character at the front of bytes in UTF-32, where halves of surrogate pairs pass. -/
def utf32Front (bigEndian : Bool) (first : Nat) (rest : List Nat) : Front :=
  match rest with
  | b :: c :: d :: _ =>
    let n :=
      if bigEndian then ((first * 0x100 + b) * 0x100 + c) * 0x100 + d
      else ((d * 0x100 + c) * 0x100 + b) * 0x100 + first
    if n < 0x110000 then .point n 4 else .fault 4 .outOfRange
  | _ => .fault (rest.length + 1) .truncated

/-! ### Whole texts -/

/-- Decodes bytes from a position on. -/
def decodeFrom (encoding : String) (front : Nat → List Nat → Front) :
    Nat → List Nat → Except DecodeFault (List Char)
  | _, [] => .ok []
  | position, first :: rest =>
    match front first rest with
    | .fault length reason => .error { encoding, byte := first, position, length, reason }
    | .point n length => do
      let cs ← decodeFrom encoding front (position + length) (rest.drop (length - 1))
      .ok (charOf n :: cs)
termination_by _ bytes => bytes.length
decreasing_by simp only [List.length_drop, List.length_cons]; omega

/-- Decodes strict UTF-8. -/
def decodeUtf8 (bytes : List Nat) : Except DecodeFault (List Char) :=
  decodeFrom "utf-8" utf8Front 0 bytes

/-- The name of a 16-bit or 32-bit encoding in messages. -/
def unitName (width : String) (bigEndian : Bool) : String :=
  "utf-" ++ width ++ (if bigEndian then "-be" else "-le")

/-- Decodes bytes in an encoding, where halves of surrogate pairs pass. -/
def decode (encoding : Encoding) (bytes : List Nat) : Except DecodeFault (List Char) :=
  match encoding with
  | .utf8 => decodeFrom "utf-8" utf8LaxFront 0 bytes
  | .utf8Signed => decodeFrom "utf-8" utf8LaxFront 0 (bytes.drop 3)
  | .utf16 bigEndian => decodeFrom (unitName "16" bigEndian) (utf16Front bigEndian) 0 bytes
  | .utf16Marked =>
    let bigEndian := bytes.head? == some 0xFE
    decodeFrom (unitName "16" bigEndian) (utf16Front bigEndian) 2 (bytes.drop 2)
  | .utf32 bigEndian => decodeFrom (unitName "32" bigEndian) (utf32Front bigEndian) 0 bytes
  | .utf32Marked =>
    let bigEndian := bytes.head? == some 0
    decodeFrom (unitName "32" bigEndian) (utf32Front bigEndian) 4 (bytes.drop 4)

/-- The encoding of a JSON text: as its byte order mark says, or else from the zero bytes among its
first four. -/
def detect (bytes : List Nat) : Encoding :=
  match bytes with
  | 0 :: 0 :: 0xFE :: 0xFF :: _ => .utf32Marked
  | 0xFF :: 0xFE :: 0 :: 0 :: _ => .utf32Marked
  | 0xFE :: 0xFF :: _ => .utf16Marked
  | 0xFF :: 0xFE :: _ => .utf16Marked
  | 0xEF :: 0xBB :: 0xBF :: _ => .utf8Signed
  | a :: b :: c :: d :: _ =>
    if a = 0 then (if b = 0 then .utf32 true else .utf16 true)
    else if b = 0 then (if c = 0 ∧ d = 0 then .utf32 false else .utf16 false)
    else .utf8
  | [a, b] => if a = 0 then .utf16 true else if b = 0 then .utf16 false else .utf8
  | _ => .utf8

end Encoding

/-- The text with every line ended by a line feed alone. -/
def normalizeNewlines : List Char → List Char
  | '\r' :: '\n' :: rest => '\n' :: normalizeNewlines rest
  | '\r' :: rest => '\n' :: normalizeNewlines rest
  | c :: rest => c :: normalizeNewlines rest
  | [] => []

end ComponentLookup
