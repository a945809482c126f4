import ComponentLookup.Numeral.Binary64

/-!
# JSON values

The documents that the library reads, edits and writes.  The fields of an object are kept as a
list in the order in which they were written, because that order reaches every output: assigning a
field keeps its place, and a new field goes last (`Fields.put`).

A value read from a document never repeats a field name (`Json.DistinctKeys`); nothing below relies
on it, since look-ups take the first field of a name and assignments change that one.
-/

namespace ComponentLookup

/-- A JSON value; integers and doubles stay apart. -/
inductive Json where
  | null
  | bool (b : Bool)
  | int (n : Int)
  | float (x : Binary64)
  | str (s : String)
  | arr (items : List Json)
  | obj (fields : List (String × Json))
  deriving Inhabited

/-- The fields of an object, in order. -/
abbrev Fields := List (String × Json)

/-! ### Fields by name -/

namespace Fields

/-- The value of the first field named `key`. -/
def get? (key : String) : Fields → Option Json
  | [] => none
  | (k, v) :: rest => if k = key then some v else get? key rest

/-- Assigns a field: in place if it is there, else at the end. -/
def put (key : String) (value : Json) : Fields → Fields
  | [] => [(key, value)]
  | (k, v) :: rest => if k = key then (k, value) :: rest else (k, v) :: put key value rest

/-- Assigns the given fields one after another. -/
def putAll (fields : Fields) (new : Fields) : Fields :=
  new.foldl (fun acc field => acc.put field.1 field.2) fields

/-- The fields with each name once: the last value of a name at its first place. -/
def ofPairs (pairs : List (String × Json)) : Fields := putAll [] pairs

end Fields

namespace Json

/-! ### Kinds of value -/

/-- The fields of an object. -/
def fields? : Json → Option Fields
  | .obj fields => some fields
  | _ => none

/-- The items of a list. -/
def items? : Json → Option (List Json)
  | .arr items => some items
  | _ => none

/-- The text of a string value. -/
def text? : Json → Option String
  | .str s => some s
  | _ => none

/-- The number of an integer value. -/
def int? : Json → Option Int
  | .int n => some n
  | _ => none

/-- The value of a field, or nothing if the value is no object or lacks the field. -/
def get? (v : Json) (key : String) : Option Json :=
  match v with
  | .obj fields => Fields.get? key fields
  | _ => none

/-- Assigns a field of an object; any other value has none to assign. -/
def set (v : Json) (key : String) (value : Json) : Json :=
  match v with
  | .obj fields => .obj (Fields.put key value fields)
  | v => v

/-- The value is null. -/
def isNull : Json → Bool
  | .null => true
  | _ => false

/-- Nothing, zero, the empty text and the empty containers count as false. -/
def isTruthy : Json → Bool
  | .null => false
  | .bool b => b
  | .int n => n != 0
  | .float x => !x.isZero
  | .str s => s != ""
  | .arr items => !items.isEmpty
  | .obj fields => !fields.isEmpty

/-- The name of a value's kind, as messages give it. -/
def kindName : Json → String
  | .null => "NoneType"
  | .bool _ => "bool"
  | .int _ => "int"
  | .float _ => "float"
  | .str _ => "str"
  | .arr _ => "list"
  | .obj _ => "dict"

/-! ### Size -/

mutual

/-- The number of values in a value, itself included. -/
def size : Json → Nat
  | .arr items => sizeItems items + 1
  | .obj fields => sizeFields fields + 1
  | _ => 1

/-- The number of values in the items of a list. -/
def sizeItems : List Json → Nat
  | [] => 0
  | v :: rest => size v + sizeItems rest

/-- The number of values in the fields of an object. -/
def sizeFields : List (String × Json) → Nat
  | [] => 0
  | (_, v) :: rest => size v + sizeFields rest

end

theorem one_le_size (v : Json) : 1 ≤ v.size := by
  cases v <;> simp [size]

theorem sizeFields_get? {key : String} {fields : Fields} {v : Json}
    (h : Fields.get? key fields = some v) : v.size ≤ sizeFields fields := by
  induction fields with
  | nil => simp [Fields.get?] at h
  | cons field rest ih =>
    obtain ⟨k, w⟩ := field
    simp only [Fields.get?] at h
    simp only [sizeFields]
    split at h
    · cases h; omega
    · have := ih h; omega

theorem size_mem_items {v : Json} {items : List Json} (h : v ∈ items) :
    v.size ≤ sizeItems items := by
  induction items with
  | nil => simp at h
  | cons w rest ih =>
    simp only [sizeItems]
    rcases List.mem_cons.1 h with rfl | h
    · omega
    · have := ih h; omega

/-! ### Distinct field names -/

mutual

/-- No object inside the value repeats a field name. -/
def DistinctKeys : Json → Prop
  | .arr items => DistinctKeysItems items
  | .obj fields => (fields.map Prod.fst).Nodup ∧ DistinctKeysFields fields
  | _ => True

/-- `DistinctKeys` for each item of a list. -/
def DistinctKeysItems : List Json → Prop
  | [] => True
  | v :: rest => DistinctKeys v ∧ DistinctKeysItems rest

/-- `DistinctKeys` for the value of each field. -/
def DistinctKeysFields : List (String × Json) → Prop
  | [] => True
  | (_, v) :: rest => DistinctKeys v ∧ DistinctKeysFields rest

end

end Json

end ComponentLookup
