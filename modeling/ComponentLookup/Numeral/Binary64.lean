/-!
# Double-precision numbers

A number of a document is an unbounded integer or a double-precision floating-point number.  The
latter is kept as what it denotes: a sign, a significand and an exponent, an infinity, or not a
number.

`Binary64.ofRatio` rounds a positive fraction to the nearest double, a tie to the even
significand, and `Binary64.ofDecimal` applies it to a decimal numeral.
-/

namespace ComponentLookup

/-- A double: a finite value `± significand * 2 ^ exponent`, an infinity, or not a number. -/
inductive Binary64 where
  | finite (negative : Bool) (significand : Nat) (exponent : Int)
  | infinity (negative : Bool)
  | nan
  deriving DecidableEq, Inhabited

namespace Binary64

/-- The exponent of the smallest positive double. -/
def minExponent : Int := -1074

/-- The number of significands, `2 ^ 53`. -/
def significands : Nat := 0x20000000000000

/-- The least significand of a double above the least exponent, `2 ^ 52`. -/
def leastSignificand : Nat := 0x10000000000000

/-- The largest exponent of a finite double. -/
def maxExponent : Int := 971

/-- Zero with a sign. -/
def zero (negative : Bool) : Binary64 := .finite negative 0 minExponent

/-- The value is zero, of either sign. -/
def isZero : Binary64 → Bool
  | .finite _ m _ => m == 0
  | _ => false

/-- The nearest natural number to `num / den`, the even one of two. -/
def divRound (num den : Nat) : Nat :=
  let q := num / den
  match compare (2 * (num % den)) den with
  | .lt => q
  | .gt => q + 1
  | .eq => if q % 2 = 0 then q else q + 1

/-- The quotient of `num / den` by `2 ^ q`, as a fraction. -/
def scale (num den : Nat) (q : Int) : Nat × Nat :=
  (num * Nat.pow 2 (-q).toNat, den * Nat.pow 2 q.toNat)

/-- The exponent of the leading binary digit of `num / den`, both positive. -/
def leadingExponent (num den : Nat) : Int :=
  let e : Int := (num.log2 : Int) - (den.log2 : Int)
  let (n, d) := scale num den e
  if d ≤ n then e else e - 1

/-- The double nearest to the positive fraction `num / den`, a tie going to the even significand;
a value beyond the largest double rounds to an infinity. -/
def ofRatio (negative : Bool) (num den : Nat) : Binary64 :=
  let q := max minExponent (leadingExponent num den - 52)
  let (n, d) := scale num den q
  let m := divRound n d
  let (m, q) := if m = significands then (leastSignificand, q + 1) else (m, q)
  if maxExponent < q then .infinity negative else .finite negative m q

/-- The number of decimal digits of a natural number, at least one. -/
def digitCount (n : Nat) : Nat := (Nat.toDigits 10 n).length

/-- The double nearest to `± digits * 10 ^ exponent`.  Numerals far outside the range of doubles are
recognised by their size alone, so that no huge power is computed. -/
def ofDecimal (negative : Bool) (digits : Nat) (exponent : Int) : Binary64 :=
  if digits = 0 then zero negative
  else
    let place : Int := (digitCount digits : Int) + exponent
    if 320 < place then .infinity negative
    else if place < -340 then zero negative
    else ofRatio negative (digits * Nat.pow 10 exponent.toNat) (Nat.pow 10 (-exponent).toNat)

/-- The integer that a finite double equals, if it is one. -/
def toInt? : Binary64 → Option Int
  | .finite negative m q =>
    let signed (n : Nat) : Int := if negative then -(n : Int) else n
    if 0 ≤ q then some (signed (m * Nat.pow 2 q.toNat))
    else
      let den := Nat.pow 2 (-q).toNat
      if m % den = 0 then some (signed (m / den)) else none
  | _ => none

end Binary64

end ComponentLookup
