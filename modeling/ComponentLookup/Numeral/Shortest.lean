import ComponentLookup.Numeral.Binary64

/-!
# Shortest decimal numerals

A double is written with the fewest decimal digits that round back to it, and of those with the
ones nearest to its value, a tie going to the even digit (`Binary64.shortest`).  The search runs
over the decimal grids from coarse to fine; on each grid only the two neighbours of the value are
candidates.

`Binary64.numeral` lays the digits out: positionally, with at least one digit after the point, as
long as the leading digit stands for `10 ^ -4` up to `10 ^ 15`, and otherwise with a signed
exponent of at least two digits.
-/

namespace ComponentLookup

/-- The decimal value `digits * 10 ^ exponent`. -/
structure Decimal where
  digits : Nat
  exponent : Int
  deriving DecidableEq, Inhabited

namespace Decimal

/-- The same value without trailing zeros; zero keeps one digit. -/
def strip (d : Decimal) : Decimal :=
  let ds := (Nat.toDigits 10 d.digits).reverse
  let zeros := (ds.takeWhile (· == '0')).length
  if d.digits = 0 then ⟨0, 0⟩ else ⟨d.digits / Nat.pow 10 zeros, d.exponent + zeros⟩

/-- Positional layout, for a leading digit at `10 ^ place`, with at least one digit after the
point. -/
def positional (ds : List Char) (place : Int) : List Char :=
  if place < 0 then
    '0' :: '.' :: List.replicate (-place - 1).toNat '0' ++ ds
  else
    let whole := place.toNat + 1
    let padded := ds ++ List.replicate (whole - ds.length) '0'
    match padded.drop whole with
    | [] => padded ++ ['.', '0']
    | fraction => padded.take whole ++ '.' :: fraction

/-- Scientific layout: one digit before the point, and a signed exponent of at least two digits. -/
def scientific (ds : List Char) (place : Int) : List Char :=
  let mantissa := match ds with
    | d :: (e :: r) => d :: '.' :: e :: r
    | ds => ds
  let power := Nat.toDigits 10 place.natAbs
  mantissa ++ 'e' :: (if place < 0 then '-' else '+') ::
    (List.replicate (2 - power.length) '0' ++ power)

/-- The layout of a decimal value without its sign. -/
def layout (d : Decimal) : List Char :=
  let d := d.strip
  let ds := Nat.toDigits 10 d.digits
  let place := d.exponent + (ds.length : Int) - 1
  if -4 ≤ place ∧ place < 16 then positional ds place else scientific ds place

end Decimal

namespace Binary64

/-- The grid `10 ^ g` as seen from `2 ^ q`: `d * 10 ^ g` compares with `x * 2 ^ q` as
`d * den` with `x * num`. -/
def gridRatio (q g : Int) : Nat × Nat :=
  (Nat.pow 2 q.toNat * Nat.pow 10 (-g).toNat, Nat.pow 2 (-q).toNat * Nat.pow 10 g.toNat)

/-- `d * 10 ^ g` rounds to the double `m * 2 ^ q`: it lies between the midpoints to the neighbouring
doubles, the ends included when `m` is even.  Below a power of two the neighbour is half as far
away. -/
def readsBack (m : Nat) (q : Int) (d : Nat) (g : Int) : Bool :=
  let (num, den) := gridRatio q g
  let low := if m = leastSignificand ∧ minExponent < q then 4 * m - 1 else 4 * m - 2
  let x := 4 * d * den
  if m % 2 = 0 then low * num ≤ x && x ≤ (4 * m + 2) * num
  else low * num < x && x < (4 * m + 2) * num

/-- The better of the two neighbours of `m * 2 ^ q` on the grid `10 ^ g`, if one rounds back. -/
def gridDigits? (m : Nat) (q g : Int) : Option Decimal :=
  let (num, den) := gridRatio q g
  let low := m * num / den
  let high := low + 1
  match readsBack m q low g, readsBack m q high g with
  | false, false => none
  | true, false => some ⟨low, g⟩
  | false, true => some ⟨high, g⟩
  | true, true =>
    match compare (2 * m * num) ((low + high) * den) with
    | .lt => some ⟨low, g⟩
    | .gt => some ⟨high, g⟩
    | .eq => some ⟨if low % 2 = 0 then low else high, g⟩

/-- The least `k` with `m * 2 ^ q < 10 ^ k`, for a positive `m`. -/
def decimalPlace (m : Nat) (q : Int) : Int :=
  let estimate := Int.fdiv (((m.log2 : Int) + q) * 30103) 100000
  let below (k : Int) : Bool := m * (gridRatio q k).1 < (gridRatio q k).2
  (([estimate - 1, estimate, estimate + 1].find? below).getD (estimate + 2))

/-- The fewest digits that round back to the positive double `m * 2 ^ q`; seventeen always do. -/
def shortest (m : Nat) (q : Int) : Decimal :=
  let k := decimalPlace m q
  let grids := (List.range 17).map fun (n : Nat) => k - (n : Int) - 1
  match grids.findSome? (gridDigits? m q) with
  | some d => d
  | none => ⟨m * Nat.pow 2 q.toNat * Nat.pow 5 (-q).toNat, min q 0⟩

/-- The numeral of a double, given the texts of the values that have no digits. -/
def numeral (nanText infinityText : String) : Binary64 → String
  | .nan => nanText
  | .infinity negative => if negative then "-" ++ infinityText else infinityText
  | .finite negative m q =>
    let body := if m = 0 then ['0', '.', '0'] else (shortest m q).layout
    String.ofList (if negative then '-' :: body else body)

end Binary64

end ComponentLookup
