import ComponentLookup.Proofs.Json.Hereditary

/-!
# Field names stay distinct

`Json.DistinctKeys` says of a whole value what the reader of documents guarantees of every object in
it.  It is a hereditary condition (`hereditary_distinctKeys`), and it can be decided.  A field then
is assigned where it stands (`set_append`).
-/

namespace ComponentLookup

namespace Json

variable {v w : Json} {key : String} {items : List Json} {fields : Fields}

theorem distinctKeysItems_iff : DistinctKeysItems items ↔ ∀ v ∈ items, v.DistinctKeys := by
  induction items with
  | nil => simp [DistinctKeysItems]
  | cons v rest ih => simp [DistinctKeysItems, ih]

theorem distinctKeysFields_iff :
    DistinctKeysFields fields ↔ ∀ field ∈ fields, field.2.DistinctKeys := by
  induction fields with
  | nil => simp [DistinctKeysFields]
  | cons field rest ih =>
    obtain ⟨k, v⟩ := field
    simp [DistinctKeysFields, ih]

/-- **Distinct field names** are a hereditary condition. -/
theorem hereditary_distinctKeys : Hereditary DistinctKeys where
  null := trivial
  str _ := trivial
  arr_iff := distinctKeysItems_iff
  obj_iff := and_congr_right' distinctKeysFields_iff

namespace DistinctKeys

theorem get? (h : v.DistinctKeys) (hw : v.get? key = some w) : w.DistinctKeys :=
  hereditary_distinctKeys.get? h hw

theorem mem (h : (Json.arr items).DistinctKeys) (hv : v ∈ items) : v.DistinctKeys :=
  hereditary_distinctKeys.mem h hv

end DistinctKeys

/-- Where no name comes twice, a field in the middle is assigned where it stands. -/
theorem set_append {done rest : Fields} (h : ((done ++ (key, v) :: rest).map Prod.fst).Nodup)
    (w : Json) :
    (Json.obj (done ++ (key, v) :: rest)).set key w = .obj (done ++ (key, w) :: rest) := by
  -- `Fields.put` stores into the first field of that name
  rw [Json.set, Fields.put_append (Fields.notMem_of_nodup h)]

/-! ### Deciding it -/

mutual

def decideDistinctKeys : ∀ v : Json, Decidable v.DistinctKeys
  | .arr items => decideDistinctKeysItems items
  | .obj fields => @instDecidableAnd _ _ inferInstance (decideDistinctKeysFields fields)
  | .null | .bool _ | .int _ | .float _ | .str _ => .isTrue trivial

def decideDistinctKeysItems : ∀ items : List Json, Decidable (DistinctKeysItems items)
  | [] => .isTrue trivial
  | v :: rest => @instDecidableAnd _ _ (decideDistinctKeys v) (decideDistinctKeysItems rest)

def decideDistinctKeysFields :
    ∀ fields : List (String × Json), Decidable (DistinctKeysFields fields)
  | [] => .isTrue trivial
  | (_, v) :: rest => @instDecidableAnd _ _ (decideDistinctKeys v) (decideDistinctKeysFields rest)

end

instance : DecidablePred Json.DistinctKeys := decideDistinctKeys

end Json

end ComponentLookup
