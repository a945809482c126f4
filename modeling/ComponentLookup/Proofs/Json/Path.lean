import ComponentLookup.Proofs.Json.Distinct
import Mathlib.Data.List.Nodup

/-!
# Places inside a value

A path leads from a value to one inside it, field by field and item by item (`Json.at?`).

`Json.Within P Q v` says that inside `v` only the values at the paths of `Q` may satisfy `P`; with
no paths at all, that none does (`Json.Without`).  It goes down with a path (`Within.get?`,
`Within.mem`), and `Without` comes up from the parts of a value (`without_of`, `Without.set`).

`Json.places` lists all places of a value (`mem_places`), from the outside in and in the order of
the fields and items, so that `Within` can be decided for a given value.  Where no object repeats a
field name, it lists each place once (`nodup_places`) and with what stands there
(`at?_of_mem_places`).
-/

namespace ComponentLookup

namespace Json

/-- One step into a value. -/
inductive Step where
  | field (key : String)
  | item (index : Nat)
  deriving DecidableEq

abbrev Path := List Step

/-- The value at a path. -/
def at? : Path → Json → Option Json
  | [], v => some v
  | .field key :: path, v => (v.get? key).bind (at? path)
  | .item index :: path, v => (v.items?.bind (·[index]?)).bind (at? path)

variable {v w : Json} {key : String} {items : List Json} {path : Path}

theorem at?_field (key : String) (path : Path) (v : Json) :
    at? (.field key :: path) v = (v.get? key).bind (at? path) := rfl

theorem at?_singleton (key : String) (v : Json) : at? [.field key] v = v.get? key :=
  Option.bind_fun_some _

theorem at?_item_arr (index : Nat) (path : Path) (items : List Json) :
    at? (.item index :: path) (.arr items) = items[index]?.bind (at? path) := rfl

theorem at?_item_singleton (index : Nat) (items : List Json) :
    at? [.item index] (.arr items) = items[index]? :=
  Option.bind_fun_some _

/-- The part of a value that one step leads to. -/
def child? : Step → Json → Option Json
  | .field key, v => v.get? key
  | .item index, v => v.items?.bind (·[index]?)

theorem at?_cons (step : Step) (path : Path) (v : Json) :
    at? (step :: path) v = (child? step v).bind (at? path) := by
  cases step <;> rfl

theorem exists_items_of_child? {index : Nat} (h : child? (.item index) v = some w) :
    ∃ items, v = .arr items ∧ items[index]? = some w := by
  obtain ⟨items, hi, hw⟩ := Option.bind_eq_some_iff.1 h
  exact ⟨items, by cases v <;> cases hi; rfl, hw⟩

theorem at?_append (p q : Path) (v : Json) : at? (p ++ q) v = (at? p v).bind (at? q) := by
  induction p generalizing v with
  | nil => rfl
  | cons step p ih => simp only [List.cons_append, at?_cons, Option.bind_assoc, funext ih]

/-! ### What holds of no value inside -/

/-- Inside a value, only those at some paths may have a property. -/
def Within (P : Json → Prop) (Q : Path → Prop) (v : Json) : Prop :=
  ∀ path w, at? path v = some w → P w → Q path

/-- No value inside a value, nor the value itself, has a property. -/
def Without (P : Json → Prop) (v : Json) : Prop := ∀ path w, at? path v = some w → ¬ P w

variable {P : Json → Prop} {Q Q' : Path → Prop}

namespace Within

theorem mono (h : Within P Q v) (hQ : ∀ path, Q path → Q' path) : Within P Q' v :=
  fun path w hw hP => hQ path (h path w hw hP)

theorem get? (h : Within P Q v) (hw : v.get? key = some w) :
    Within P (fun path => Q (.field key :: path)) w :=
  fun path u hu => h (.field key :: path) u (by rw [at?_field, hw]; exact hu)

theorem item {index : Nat} (h : Within P Q (.arr items)) (hw : items[index]? = some w) :
    Within P (fun path => Q (.item index :: path)) w :=
  fun path u hu => h (.item index :: path) u (by rw [at?_item_arr, hw]; exact hu)

theorem head (h : Within P Q (.arr (v :: items))) :
    Within P (fun path => Q (.item 0 :: path)) v :=
  h.item rfl

theorem at? {p : Path} (h : Within P Q v) (hw : Json.at? p v = some w) :
    Within P (fun path => Q (p ++ path)) w :=
  fun path u hu => h (p ++ path) u (by rw [at?_append, hw]; exact hu)

/-- If all paths go through one field, the property holds nowhere in the other fields. -/
theorem without_other (h : Within P Q v)
    (hQ : ∀ path, Q path → ∃ rest, path = .field key :: rest) :
    ∀ key' ≠ key, ∀ w, v.get? key' = some w → Without P w := by
  intro key' hkey w hget path u hu hP
  obtain ⟨rest, heq⟩ := hQ _ (h.get? hget path u hu hP)
  cases heq
  exact hkey rfl

/-- The places in the items behind the first one. -/
theorem tail (h : Within P Q (.arr (v :: items))) (hself : ¬ P (.arr items)) :
    Within P (fun path => ∃ index rest, path = .item index :: rest ∧
      Q (.item (index + 1) :: rest)) (.arr items) := by
  rintro (_ | ⟨key | index, path⟩) u hu hP
  · exact absurd (Option.some.inj hu ▸ hP) hself
  · cases hu
  · exact ⟨index, path, rfl, h (.item (index + 1) :: path) u hu hP⟩

/-- With no path left, the property holds nowhere. -/
theorem without (h : Within P Q v) (hQ : ∀ path, ¬ Q path) : Without P v :=
  fun path w hw hP => hQ path (h path w hw hP)

end Within

theorem Within.without_mem (h : Within P Q (.arr items))
    (hQ : ∀ index path, ¬ Q (.item index :: path))
    (hv : v ∈ items) : Without P v := by
  obtain ⟨index, hindex⟩ := List.mem_iff_getElem?.1 hv
  exact (h.item hindex).without (hQ index)

theorem Without.within (h : Without P v) : Within P Q v :=
  fun path w hw hP => absurd hP (h path w hw)

theorem Without.get? (h : Without P v) (hw : v.get? key = some w) : Without P w :=
  fun path u hu => h (.field key :: path) u (by rw [at?_field, hw]; exact hu)

theorem Without.mem (h : Without P (.arr items)) (hv : v ∈ items) : Without P v := by
  obtain ⟨index, hindex⟩ := List.mem_iff_getElem?.1 hv
  exact fun path u hu => h (.item index :: path) u (by rw [at?_item_arr, hindex]; exact hu)

/-- A property that holds of no part of a value, nor of the value. -/
theorem without_of (hself : ¬ P v) (hfields : ∀ key w, v.get? key = some w → Without P w)
    (hitems : ∀ items, v.items? = some items → ∀ w ∈ items, Without P w) : Without P v := by
  rintro (_ | ⟨key | index, path⟩) w hw
  · exact Option.some.inj hw ▸ hself
  · obtain ⟨u, hu, hw⟩ := Option.bind_eq_some_iff.1 hw
    exact hfields key u hu path w hw
  · obtain ⟨u, hu, hw⟩ := Option.bind_eq_some_iff.1 hw
    obtain ⟨items, hi, hu⟩ := Option.bind_eq_some_iff.1 hu
    exact hitems items hi u (List.mem_of_getElem? hu) path w hw

/-- A value without parts. -/
theorem without_leaf (hi : v.items? = none) (hf : v.fields? = none) (hself : ¬ P v) :
    Without P v := by
  refine without_of hself (fun key w hw => ?_) fun items hitems => ?_
  · obtain ⟨fields, rfl⟩ := exists_fields_of_get? hw
    cases hf
  · rw [hi] at hitems
    cases hitems

theorem without_arr (hself : ¬ P (.arr items)) (h : ∀ w ∈ items, Without P w) :
    Without P (.arr items) :=
  without_of hself (fun _ _ hw => by cases hw) fun _ hi => Option.some.inj hi ▸ h

theorem without_fields (hv : v.isNode = true) (hself : ¬ P v)
    (h : ∀ key w, v.get? key = some w → Without P w) : Without P v := by
  obtain ⟨fields, rfl⟩ := exists_fields_of_isNode hv
  exact without_of hself h fun _ hi => by cases hi

/-- Assigning a field keeps a property away, if it is away from the other fields. -/
theorem without_set (hv : v.isNode = true) (hself : ¬ P (v.set key w)) (hw : Without P w)
    (h : ∀ key' ≠ key, ∀ u, v.get? key' = some u → Without P u) : Without P (v.set key w) := by
  obtain ⟨fields, rfl⟩ := exists_fields_of_isNode hv
  refine without_of hself (fun key' u hu => ?_) fun _ hi => by cases hi
  by_cases hkey : key' = key
  · rw [hkey, get?_set_self hv, Option.some.injEq] at hu
    exact hu ▸ hw
  · rw [get?_set_of_ne hkey] at hu
    exact h key' hkey u hu

/-! ### All places -/

mutual

/-- The values inside a value with their paths. -/
def places : Json → List (Path × Json)
  | .arr items => ([], .arr items) :: placesInItems 0 items
  | .obj fields => ([], .obj fields) :: placesInFields fields
  | v => [([], v)]

/-- `places` for the items of a list from an index on. -/
def placesInItems : Nat → List Json → List (Path × Json)
  | _, [] => []
  | index, v :: rest =>
    (places v).map (fun place => (.item index :: place.1, place.2)) ++
      placesInItems (index + 1) rest

/-- `places` for the fields of an object. -/
def placesInFields : List (String × Json) → List (Path × Json)
  | [] => []
  | (key, v) :: rest =>
    (places v).map (fun place => (.field key :: place.1, place.2)) ++ placesInFields rest

end

theorem places_scalar (hi : v.items? = none) (hf : v.fields? = none) : places v = [([], v)] := by
  cases v with
  | arr items => cases hi
  | obj fields => cases hf
  | _ => rfl

theorem sublist_placesInItems (index : Nat) {i : Nat} (h : items[i]? = some v) :
    ((places v).map (Prod.map (.item (index + i) :: ·) id)).Sublist
      (placesInItems index items) := by
  induction items generalizing index i with
  | nil => cases h
  | cons w rest ih =>
    cases i with
    | zero =>
      cases h
      exact List.sublist_append_left _ _
    | succ i =>
      have hrest := ih (index + 1) h
      rw [Nat.add_right_comm] at hrest
      exact hrest.trans (List.sublist_append_right _ _)

theorem sublist_placesInFields {fields : Fields} (h : (key, v) ∈ fields) :
    ((places v).map (Prod.map (.field key :: ·) id)).Sublist (placesInFields fields) := by
  induction fields with
  | nil => cases h
  | cons field rest ih =>
    rcases List.mem_cons.1 h with rfl | h
    · exact List.sublist_append_left _ _
    · exact (ih h).trans (List.sublist_append_right _ _)

/-- The places of a part of a value come among those of the value, in their order. -/
theorem sublist_places (h : at? path v = some w) :
    ((places w).map (Prod.map (path ++ ·) id)).Sublist (places v) := by
  induction path generalizing v with
  | nil =>
    cases h
    have hid : (places w).map (Prod.map ([] ++ ·) id) = places w := List.map_id _
    rw [hid]
  | cons step path ih =>
    obtain ⟨u, hu, hw⟩ := Option.bind_eq_some_iff.1 (at?_cons step path v ▸ h)
    have hinner := (ih hw).map (Prod.map (step :: ·) id)
    rw [List.map_map] at hinner
    refine hinner.trans ?_
    cases step with
    | field key =>
      obtain ⟨fields, rfl⟩ := exists_fields_of_get? hu
      exact (sublist_placesInFields (Fields.mem_of_get? hu)).cons _
    | item index =>
      obtain ⟨items, rfl, hi⟩ := exists_items_of_child? hu
      have houter := sublist_placesInItems 0 hi
      rw [Nat.zero_add] at houter
      exact houter.cons _

theorem sublist_places_self (v : Json) : [([], v)].Sublist (places v) := by
  cases v <;> simp [places]

theorem mem_places (h : at? path v = some w) : (path, w) ∈ places v := by
  have hself : ([], w) ∈ places w := (sublist_places_self w).subset List.mem_cons_self
  refine (sublist_places h).subset (List.mem_map.2 ⟨_, hself, ?_⟩)
  rw [Prod.map, List.append_nil, id]

theorem mem_of_mem_placesInItems {index : Nat} {place : Path × Json}
    (h : place ∈ placesInItems index items) :
    ∃ i v inner, items[i]? = some v ∧ inner ∈ places v ∧
      place = (.item (index + i) :: inner.1, inner.2) := by
  induction items generalizing index with
  | nil => cases h
  | cons v rest ih =>
    rw [placesInItems, List.mem_append] at h
    rcases h with h | h
    · obtain ⟨inner, hinner, rfl⟩ := List.mem_map.1 h
      exact ⟨0, v, inner, rfl, hinner, rfl⟩
    · obtain ⟨i, w, inner, hi, hinner, rfl⟩ := ih h
      exact ⟨i + 1, w, inner, hi, hinner, by rw [Nat.add_right_comm, Nat.add_assoc]⟩

theorem mem_of_mem_placesInFields {fields : Fields} {place : Path × Json}
    (h : place ∈ placesInFields fields) :
    ∃ field ∈ fields, ∃ inner ∈ places field.2,
      place = (.field field.1 :: inner.1, inner.2) := by
  induction fields with
  | nil => cases h
  | cons field rest ih =>
    rw [placesInFields, List.mem_append] at h
    rcases h with h | h
    · obtain ⟨inner, hinner, rfl⟩ := List.mem_map.1 h
      exact ⟨field, List.mem_cons_self, inner, hinner, rfl⟩
    · obtain ⟨field', hf, hinner⟩ := ih h
      exact ⟨field', List.mem_cons_of_mem _ hf, hinner⟩

/-- What is listed at a place stands there. -/
theorem at?_of_mem_places (hd : v.DistinctKeys) :
    ∀ place ∈ places v, at? place.1 v = some place.2 := by
  induction v using Json.induct with
  | scalar v hi hf =>
    rw [places_scalar hi hf]
    simp [at?]
  | arr items ih =>
    intro place h
    rcases List.mem_cons.1 h with rfl | h
    · rfl
    · obtain ⟨i, w, inner, hi, hinner, rfl⟩ := mem_of_mem_placesInItems h
      have hw := List.mem_of_getElem? hi
      rw [Nat.zero_add, at?_item_arr, hi]
      exact ih w hw (hd.mem hw) inner hinner
  | obj fields ih =>
    intro place h
    rcases List.mem_cons.1 h with rfl | h
    · rfl
    · obtain ⟨field, hf, inner, hinner, rfl⟩ := mem_of_mem_placesInFields h
      have hget : (Json.obj fields).get? field.1 = some field.2 := Fields.get?_of_mem hd.1 hf
      rw [at?_field, hget]
      exact ih field hf (hd.get? hget) inner hinner

theorem nodup_map_cons (step : Step) {places : List (Path × Json)}
    (h : (places.map Prod.fst).Nodup) :
    ((places.map fun place => (step :: place.1, place.2)).map Prod.fst).Nodup := by
  have hcons := List.Nodup.map (List.cons_injective (a := step)) h
  rwa [List.map_map] at hcons ⊢

theorem nodup_placesInItems (index : Nat) (h : ∀ v ∈ items, ((places v).map Prod.fst).Nodup) :
    ((placesInItems index items).map Prod.fst).Nodup := by
  induction items generalizing index with
  | nil => exact List.nodup_nil
  | cons v rest ih =>
    rw [placesInItems, List.map_append, List.nodup_append]
    refine ⟨nodup_map_cons _ (h v List.mem_cons_self),
      ih (index + 1) fun w hw => h w (List.mem_cons_of_mem v hw), ?_⟩
    -- the paths begin with different indices
    intro p hp q hq
    simp only [List.map_map, List.mem_map] at hp hq
    obtain ⟨inner, -, rfl⟩ := hp
    obtain ⟨place, hplace, rfl⟩ := hq
    obtain ⟨i, w, inner', -, -, rfl⟩ := mem_of_mem_placesInItems hplace
    intro heq
    injection heq with heq
    injection heq with heq
    omega

theorem nodup_placesInFields {fields : Fields} (hn : (fields.map Prod.fst).Nodup)
    (h : ∀ field ∈ fields, ((places field.2).map Prod.fst).Nodup) :
    ((placesInFields fields).map Prod.fst).Nodup := by
  induction fields with
  | nil => exact List.nodup_nil
  | cons field rest ih =>
    rw [List.map_cons, List.nodup_cons] at hn
    rw [placesInFields, List.map_append, List.nodup_append]
    refine ⟨nodup_map_cons _ (h field List.mem_cons_self),
      ih hn.2 fun w hw => h w (List.mem_cons_of_mem field hw), ?_⟩
    -- the paths begin with different names
    intro p hp q hq
    simp only [List.map_map, List.mem_map] at hp hq
    obtain ⟨inner, -, rfl⟩ := hp
    obtain ⟨place, hplace, rfl⟩ := hq
    obtain ⟨field', hf, inner', -, rfl⟩ := mem_of_mem_placesInFields hplace
    intro heq
    injection heq with heq
    injection heq with heq
    exact hn.1 (heq ▸ List.mem_map.2 ⟨field', hf, rfl⟩)

/-- No place is listed twice. -/
theorem nodup_places (hd : v.DistinctKeys) : ((places v).map Prod.fst).Nodup := by
  induction v using Json.induct with
  | scalar v hi hf =>
    rw [places_scalar hi hf]
    exact List.nodup_singleton _
  | arr items ih =>
    refine List.nodup_cons.2 ⟨?_, nodup_placesInItems 0 fun v hv => ih v hv (hd.mem hv)⟩
    intro h
    obtain ⟨place, hplace, hnil⟩ := List.mem_map.1 h
    obtain ⟨_, _, _, -, -, rfl⟩ := mem_of_mem_placesInItems hplace
    cases hnil
  | obj fields ih =>
    refine List.nodup_cons.2 ⟨?_, nodup_placesInFields hd.1 fun field hf =>
      ih field hf (distinctKeysFields_iff.1 hd.2 field hf)⟩
    intro h
    obtain ⟨place, hplace, hnil⟩ := List.mem_map.1 h
    obtain ⟨_, _, _, -, rfl⟩ := mem_of_mem_placesInFields hplace
    cases hnil

theorem without_of_places (h : ∀ place ∈ places v, ¬ P place.2) : Without P v :=
  fun path w hw => h (path, w) (mem_places hw)

theorem within_of_places (h : ∀ place ∈ places v, P place.2 → Q place.1) : Within P Q v :=
  fun path w hw => h (path, w) (mem_places hw)

end Json

end ComponentLookup
