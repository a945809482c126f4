import ComponentLookup.Proofs.Json.Distinct
import ComponentLookup.Proofs.Json.Path

/-!
# Edits at places

An edit (`Json.Edit`) tells what stood at a place of a value, and what stands in its stead
afterwards, if anything.  A list loses an item that is taken out; a field that loses its value holds
null.

* `Json.replay` : makes a list of edits in a value, **the last one first**, so that an item that is
  taken out does not move the items that are edited after it.
* `Json.replay_under` : edits inside a part of a value change this part, and nothing else.
* `Json.Edit.Lead` : the edits lead from one value to another, and they are listed in the order of
  their places, from the outside in and along the fields and items (`Json.places`).

A change of what is at a path is a change along its steps (`Json.alter`).  The laws are proved for
one step, and go over to paths by induction.
-/

namespace ComponentLookup

namespace Json

/-! ### One step -/

/-- Changes the item at an index, or takes it out. -/
def alterItem (f : Json → Option Json) : Nat → List Json → List Json
  | _, [] => []
  | 0, v :: rest => (f v).toList ++ rest
  | index + 1, v :: rest => v :: alterItem f index rest

/-- Changes the part of a value that a step leads to, or takes it out. -/
def alter (f : Json → Option Json) : Step → Json → Json
  | .field key, v => v.update key fun w => (f w).getD .null
  | .item index, .arr items => .arr (alterItem f index items)
  | .item _, v => v

variable {f g : Json → Option Json} {step : Step} {v v' w w' u : Json} {items : List Json}
  {index : Nat}

theorem alterItem_append (done rest : List Json) :
    alterItem f done.length (done ++ v :: rest) = done ++ (f v).toList ++ rest := by
  induction done with
  | nil => rfl
  | cons w done ih => simp [alterItem, ih]

theorem exists_append_of_getElem? (h : items[index]? = some w) :
    ∃ done rest, items = done ++ w :: rest ∧ done.length = index := by
  obtain ⟨hlt, rfl⟩ := List.getElem?_eq_some_iff.1 h
  refine ⟨items.take index, items.drop (index + 1), ?_, List.length_take_of_le (Nat.le_of_lt hlt)⟩
  rw [List.getElem_cons_drop, List.take_append_drop]

theorem getElem?_alterItem (h : items[index]? = some w) (hf : f w = some u) :
    (alterItem f index items)[index]? = some u := by
  obtain ⟨done, rest, rfl, rfl⟩ := exists_append_of_getElem? h
  simp [alterItem_append, hf]

/-- Only what becomes of the item matters. -/
theorem alterItem_congr (h : items[index]? = some w) (hf : f w = g w) :
    alterItem f index items = alterItem g index items := by
  obtain ⟨done, rest, rfl, rfl⟩ := exists_append_of_getElem? h
  rw [alterItem_append, alterItem_append, hf]

theorem alterItem_eq_self (h : items[index]? = some w) (hf : f w = some w) :
    alterItem f index items = items := by
  obtain ⟨done, rest, rfl, rfl⟩ := exists_append_of_getElem? h
  simp [alterItem_append, hf]

theorem alterItem_alterItem (h : items[index]? = some w) (hf : f w = some u) :
    alterItem g index (alterItem f index items) = alterItem (fun _ => g u) index items := by
  obtain ⟨done, rest, rfl, rfl⟩ := exists_append_of_getElem? h
  simp [alterItem_append, hf]

theorem child?_alter (h : child? step v = some w) (hf : f w = some u) :
    child? step (alter f step v) = some u := by
  cases step with
  | field key =>
    have hget : v.get? key = some w := h
    simp [child?, alter, hget, hf]
  | item index =>
    obtain ⟨items, rfl, hw⟩ := exists_items_of_child? h
    exact getElem?_alterItem hw hf

theorem alter_congr (h : child? step v = some w) (hf : f w = g w) :
    alter f step v = alter g step v := by
  cases step with
  | field key =>
    refine update_congr fun w' hw' => ?_
    cases (show some w = some w' from h.symm.trans hw')
    rw [hf]
  | item index =>
    obtain ⟨items, rfl, hw⟩ := exists_items_of_child? h
    exact congrArg Json.arr (alterItem_congr hw hf)

theorem alter_eq_self (h : child? step v = some w) (hf : f w = some w) : alter f step v = v := by
  cases step with
  | field key =>
    refine update_eq_self fun w' hw' => ?_
    cases (show some w = some w' from h.symm.trans hw')
    rw [hf, Option.getD_some]
  | item index =>
    obtain ⟨items, rfl, hw⟩ := exists_items_of_child? h
    exact congrArg Json.arr (alterItem_eq_self hw hf)

/-- Of two changes of one part, the second has what the first has made of it. -/
theorem alter_alter (h : child? step v = some w) (hf : f w = some u) :
    alter g step (alter f step v) = alter (fun _ => g u) step v := by
  cases step with
  | field key =>
    refine update_update.trans (update_congr fun w' hw' => ?_)
    cases (show some w = some w' from h.symm.trans hw')
    simp [hf]
  | item index =>
    obtain ⟨items, rfl, hw⟩ := exists_items_of_child? h
    exact congrArg Json.arr (alterItem_alterItem hw hf)

theorem alter_item_append (done rest : List Json) :
    alter f (.item done.length) (.arr (done ++ v :: rest)) =
      .arr (done ++ (f v).toList ++ rest) :=
  congrArg Json.arr (alterItem_append done rest)

/-! ### Along a path -/

/-- A value with a new one at a path, or with none there. -/
def replace? (new : Option Json) : Path → Json → Option Json
  | [], _ => new
  | step :: path, v => some (alter (replace? new path) step v)

variable {new : Option Json} {path path' : Path}

theorem exists_replace?_some (w : Json) (path : Path) (v : Json) :
    ∃ v', replace? (some w) path v = some v' := by
  cases path with
  | nil => exact ⟨w, rfl⟩
  | cons step path => exact ⟨_, rfl⟩

theorem replace?_self (h : at? path v = some w) : replace? (some w) path v = some v := by
  induction path generalizing v with
  | nil => exact h.symm
  | cons step path ih =>
    obtain ⟨u, hu, hw⟩ := Option.bind_eq_some_iff.1 (at?_cons step path v ▸ h)
    exact congrArg some (alter_eq_self hu (ih hw))

/-- What was put at a path is there. -/
theorem at?_replace? (h : at? path v = some w) (hv : replace? (some u) path v = some v') :
    at? path v' = some u := by
  induction path generalizing v v' with
  | nil => exact hv.symm
  | cons step path ih =>
    obtain ⟨x, hx, hw⟩ := Option.bind_eq_some_iff.1 (at?_cons step path v ▸ h)
    obtain ⟨x', hx'⟩ := exists_replace?_some u path x
    rw [← Option.some.inj hv, at?_cons, child?_alter hx hx', Option.bind_some]
    exact ih hw hx'

/-- What is put at a path takes the place of what was put there before. -/
theorem replace?_replace? (h : at? path v = some w) (hv : replace? (some u) path v = some v') :
    replace? new path v' = replace? new path v := by
  induction path generalizing v v' with
  | nil => rfl
  | cons step path ih =>
    obtain ⟨x, hx, hw⟩ := Option.bind_eq_some_iff.1 (at?_cons step path v ▸ h)
    obtain ⟨x', hx'⟩ := exists_replace?_some u path x
    rw [← Option.some.inj hv]
    refine congrArg some ((alter_alter hx hx').trans (alter_congr hx ?_))
    exact ih hw hx'

theorem replace?_append (h : at? path v = some w) :
    replace? new (path ++ path') v = replace? (replace? new path' w) path v := by
  induction path generalizing v with
  | nil =>
    cases h
    rfl
  | cons step path ih =>
    obtain ⟨x, hx, hw⟩ := Option.bind_eq_some_iff.1 (at?_cons step path v ▸ h)
    exact congrArg some (alter_congr hx (ih hw))

/-! ### Edits -/

/-- An edit of a value: a place, what stood there, and what stands now in its stead, with the place
where this is when all edits have been made; nothing if it has been taken out. -/
structure Edit where
  place : Path
  before : Json
  after : Option (Path × Json)

namespace Edit

/-- The place of an edit before the edits, with what stood there. -/
def origin (e : Edit) : Path × Json := (e.place, e.before)

/-- Makes an edit. -/
def apply (e : Edit) (v : Json) : Option Json := replace? (e.after.map Prod.snd) e.place v

/-- An edit of a part of a value as one of the whole value, from the places of this part before and
after the edits. -/
def under (p q : Path) (e : Edit) : Edit :=
  { place := p ++ e.place
    before := e.before
    after := e.after.map (Prod.map (q ++ ·) id) }

variable {e : Edit} {p q : Path}

@[simp] theorem place_under : (e.under p q).place = p ++ e.place := rfl

theorem map_origin_under (edits : List Edit) :
    (edits.map (under p q)).map origin = (edits.map origin).map (Prod.map (p ++ ·) id) := by
  rw [List.map_map, List.map_map]
  rfl

theorem filterMap_after_under (edits : List Edit) :
    (edits.map (under p q)).filterMap after =
      (edits.filterMap after).map (Prod.map (q ++ ·) id) := by
  rw [List.filterMap_map, List.map_filterMap]
  rfl

@[simp] theorem map_snd_after_under :
    (e.under p q).after.map Prod.snd = e.after.map Prod.snd := by
  cases h : e.after <;> simp [under, h]

end Edit

/-- Makes edits in a value, the last one first. -/
def replay (edits : List Edit) (v : Json) : Option Json :=
  edits.foldr (fun e v? => v?.bind e.apply) (some v)

variable {edits edits' : List Edit} {e : Edit} {p q : Path}

@[simp] theorem replay_nil (v : Json) : replay [] v = some v := rfl

theorem replay_cons (e : Edit) (edits : List Edit) (v : Json) :
    replay (e :: edits) v = (replay edits v).bind e.apply := rfl

theorem replay_append (edits edits' : List Edit) (v : Json) :
    replay (edits ++ edits') v = (replay edits' v).bind (replay edits) := by
  induction edits with
  | nil => exact (Option.bind_fun_some _).symm
  | cons e edits ih =>
    rw [List.cons_append, replay_cons, ih, Option.bind_assoc]
    rfl

/-- **Edits inside a part** of a value change this part, and nothing else. -/
theorem replay_under (hw : at? p v = some w) (h : replay edits w = some w') :
    replay (edits.map (Edit.under p q)) v = replace? (some w') p v := by
  induction edits generalizing w' with
  | nil =>
    cases h
    exact (replace?_self hw).symm
  | cons e edits ih =>
    rw [replay_cons, Option.bind_eq_some_iff] at h
    obtain ⟨u, hu, he⟩ := h
    -- the part is `u` when the last edit is made, the first of the list
    obtain ⟨v', hv'⟩ := exists_replace?_some u p v
    rw [List.map_cons, replay_cons, ih hu, hv', Option.bind_some, Edit.apply,
      Edit.map_snd_after_under, Edit.place_under, replace?_append (at?_replace? hw hv')]
    rw [Edit.apply] at he
    rw [he, replace?_replace? hw hv']

/-- The edits are those that lead from one value to another. -/
structure Edit.Lead (edits : List Edit) (v w : Json) : Prop where
  /-- They make the second value of the first one. -/
  replay : Json.replay edits v = some w
  /-- They are made at places of the first value, in the order of these. -/
  origins : (edits.map Edit.origin).Sublist (places v)
  /-- No place is edited twice. -/
  nodup : (edits.map Edit.place).Nodup
  /-- What was edited stood at its place. -/
  stood : ∀ e ∈ edits, at? e.place v = some e.before
  /-- What is left of it is in the second value, in the order of the places there. -/
  results : (edits.filterMap Edit.after).Sublist (places w)
  /-- It stands at its place, and is another value than before. -/
  stands : ∀ e ∈ edits, ∀ path u, e.after = some (path, u) → at? path w = some u ∧ u ≠ e.before

/-- Where no object repeats a field name, the places of edits tell what stands there. -/
theorem Edit.lead_of_sublist (hv : v.DistinctKeys) (hw : w.DistinctKeys)
    (replay : Json.replay edits v = some w) (origins : (edits.map Edit.origin).Sublist (places v))
    (results : (edits.filterMap Edit.after).Sublist (places w))
    (changed : ∀ e ∈ edits, ∀ path u, e.after = some (path, u) → u ≠ e.before) :
    Edit.Lead edits v w where
  replay := replay
  origins := origins
  nodup := by
    have hnodup := (nodup_places hv).sublist (origins.map Prod.fst)
    rwa [List.map_map] at hnodup
  stood e he := at?_of_mem_places hv _ (origins.subset (List.mem_map_of_mem he))
  results := results
  stands e he path u hafter :=
    ⟨at?_of_mem_places hw _ (results.subset (List.mem_filterMap.2 ⟨e, he, hafter⟩)),
      changed e he path u hafter⟩

end Json

end ComponentLookup
