import ComponentLookup.Json.Basic

/-!
# Equality of values

Two values are equal as data when they denote the same thing: numbers compare by what they denote, a
truth value counting as one or zero, and the fields of an object compare without regard to their
order.
-/

namespace ComponentLookup.Json

/-- The integer that a number or truth value denotes. -/
def integral? : Json → Option Int
  | .bool b => some (if b then 1 else 0)
  | .int n => some n
  | .float x => x.toInt?
  | _ => none

/-- Two numbers or truth values denote the same number. -/
def sameNumber (v w : Json) : Bool :=
  match v.integral?, w.integral? with
  | some m, some n => m == n
  | none, none =>
    match v, w with
    | .float .nan, _ => false
    | .float x, .float y => x == y
    | _, _ => false
  | _, _ => false

mutual

/-- Two values are equal as data. -/
def same : Json → Json → Bool
  | .null, .null => true
  | .str s, .str t => s == t
  | .arr vs, .arr ws => sameItems vs ws
  | .obj fs, .obj gs => fs.length == gs.length && sameFields fs gs
  | v, w => sameNumber v w

/-- Two lists have equal items. -/
def sameItems : List Json → List Json → Bool
  | [], [] => true
  | v :: vs, w :: ws => same v w && sameItems vs ws
  | _, _ => false

/-- Each field of the first object is in the second with an equal value. -/
def sameFields : List (String × Json) → List (String × Json) → Bool
  | [], _ => true
  | (key, v) :: fs, gs =>
    (match Fields.get? key gs with
      | some w => same v w
      | none => false) && sameFields fs gs

end

end ComponentLookup.Json
