import ComponentLookup.Proofs.Json.Path
import Mathlib.Data.List.Induction

/-!
# Values inside a value removed

`Json.remove` takes out of a value what stands at some of its paths: an item leaves its list, and a
field stays behind with null.  The paths are those of the value as it was before.

Behind an item that has left, the others move up.  What stood at a path before stands at
`Json.moved` of it afterwards (`at?_moved`).
-/

namespace ComponentLookup

namespace Json

/-- The paths that go on from a path. -/
def inside (gone : Path → Bool) (path : Path) : Path → Bool := fun inner => gone (path ++ inner)

mutual

/-- The value without what stands at some paths. -/
def remove (gone : Path → Bool) : Json → Json
  | .arr items => .arr (removeItems gone 0 items)
  | .obj fields => .obj (removeFields gone fields)
  | v => v

/-- The items of a list that stay, from an index on. -/
def removeItems (gone : Path → Bool) (index : Nat) : List Json → List Json
  | [] => []
  | v :: rest =>
    if gone [.item index] then removeItems gone (index + 1) rest
    else remove (inside gone [.item index]) v :: removeItems gone (index + 1) rest

/-- The fields of an object, with null for what is taken out. -/
def removeFields (gone : Path → Bool) : List (String × Json) → List (String × Json)
  | [] => []
  | (key, v) :: rest =>
    (key, if gone [.field key] then .null else remove (inside gone [.field key]) v) ::
      removeFields gone rest

end

/-- What is left of a value that may be taken out itself. -/
def left? (gone : Path → Bool) (v : Json) : Option Json :=
  if gone [] then none else some (v.remove gone)

/-- Where a path leads after the removal: the position of an item is the original one, less the
number of earlier items that have left the list. -/
def moved : (Path → Bool) → Path → Path
  | _, [] => []
  | gone, .field key :: path => .field key :: moved (inside gone [.field key]) path
  | gone, .item i :: path =>
    .item (i - (List.range i).countP fun j => gone [.item j]) :: moved (inside gone [.item i]) path

variable {gone gone' : Path → Bool} {v w : Json} {key : String} {items before : List Json}
  {fields done : Fields}

theorem inside_inside (path path' : Path) :
    inside (inside gone path) path' = inside gone (path ++ path') := by
  funext inner
  rw [inside, inside, inside, List.append_assoc]

theorem moved_append (path path' : Path) :
    moved gone (path ++ path') = moved gone path ++ moved (inside gone path) path' := by
  induction path generalizing gone with
  | nil => rfl
  | cons step path ih =>
    cases step with
    | field key => rw [List.cons_append, moved, moved, ih, inside_inside, List.cons_append]; rfl
    | item i => rw [List.cons_append, moved, moved, ih, inside_inside, List.cons_append]; rfl

theorem moved_item (path : Path) (key : String) (i : Nat) :
    moved gone (path ++ [.field key, .item i]) = moved gone path ++ [.field key, .item (i -
      (List.range i).countP fun j => gone (path ++ [.field key, .item j]))] := by
  have hitem : ∀ j, inside (inside gone path) [.field key] [.item j] =
      gone (path ++ [.field key, .item j]) := fun j => rfl
  rw [moved_append, moved, moved, moved]
  simp only [hitem]

theorem moved_ne_nil {path : Path} (h : path ≠ []) : moved gone path ≠ [] := by
  cases path with
  | nil => exact absurd rfl h
  | cons step path => cases step <;> exact List.cons_ne_nil _ _

/-! ### Items and fields -/

theorem removeItems_cons (index : Nat) :
    removeItems gone index (v :: items) =
      (left? (inside gone [.item index]) v).toList ++ removeItems gone (index + 1) items := by
  have hself : inside gone [.item index] [] = gone [.item index] := rfl
  rw [removeItems, left?, hself]
  split_ifs <;> rfl

theorem removeFields_cons :
    removeFields gone ((key, v) :: fields) =
      (key, (left? (inside gone [.field key]) v).getD .null) :: removeFields gone fields := by
  have hself : inside gone [.field key] [] = gone [.field key] := rfl
  rw [removeFields, left?, hself]
  split_ifs <;> rfl

theorem removeItems_append (index : Nat) :
    removeItems gone index (before ++ items) =
      removeItems gone index before ++ removeItems gone (index + before.length) items := by
  induction before generalizing index with
  | nil => rfl
  | cons v rest ih =>
    rw [List.cons_append, removeItems_cons, removeItems_cons, ih, List.append_assoc,
      List.length_cons, Nat.add_right_comm, Nat.add_assoc]

theorem removeFields_append :
    removeFields gone (done ++ fields) = removeFields gone done ++ removeFields gone fields := by
  induction done with
  | nil => rfl
  | cons field rest ih =>
    obtain ⟨key, v⟩ := field
    rw [List.cons_append, removeFields_cons, removeFields_cons, ih, List.cons_append]

theorem map_fst_removeFields : (removeFields gone fields).map Prod.fst = fields.map Prod.fst := by
  induction fields with
  | nil => rfl
  | cons field rest ih =>
    obtain ⟨key, v⟩ := field
    rw [removeFields_cons, List.map_cons, List.map_cons, ih]

theorem removeItems_congr {index : Nat}
    (h : ∀ i, index ≤ i → i < index + items.length →
      inside gone [.item i] = inside gone' [.item i]) :
    removeItems gone index items = removeItems gone' index items := by
  induction items generalizing index with
  | nil => rfl
  | cons v rest ih =>
    rw [List.length_cons] at h
    rw [removeItems_cons, removeItems_cons, h index (Nat.le_refl _) (by omega),
      ih fun i hi hi' => h i (by omega) (by omega)]

theorem removeFields_congr
    (h : ∀ key ∈ fields.map Prod.fst, inside gone [.field key] = inside gone' [.field key]) :
    removeFields gone fields = removeFields gone' fields := by
  induction fields with
  | nil => rfl
  | cons field rest ih =>
    obtain ⟨key, v⟩ := field
    rw [List.map_cons, List.forall_mem_cons] at h
    rw [removeFields_cons, removeFields_cons, h.1, ih h.2]

/-- A value is not taken out of itself, so that its own path does not count. -/
theorem remove_congr (h : ∀ path, path ≠ [] → gone path = gone' path) :
    v.remove gone = v.remove gone' := by
  have hinside : ∀ step, inside gone [step] = inside gone' [step] := fun step =>
    funext fun _ => h _ (List.cons_ne_nil _ _)
  cases v with
  | arr items => rw [remove, remove, removeItems_congr fun i _ _ => hinside _]
  | obj fields => rw [remove, remove, removeFields_congr fun key _ => hinside _]
  | _ => rfl

/-- Each item that has left makes the list shorter by one. -/
theorem length_removeItems (gone : Path → Bool) (items : List Json) :
    (removeItems gone 0 items).length =
      items.length - (List.range items.length).countP fun j => gone [.item j] := by
  induction items using List.reverseRecOn with
  | nil => rfl
  | append_singleton rest v ih =>
    have hle := List.countP_le_length (p := fun j => gone [.item j]) (l := List.range rest.length)
    rw [List.length_range] at hle
    have hlast : (removeItems gone rest.length [v]).length =
        1 - [rest.length].countP fun j => gone [.item j] := by
      rw [removeItems, List.countP_singleton]
      split_ifs <;> rfl
    have hone := List.countP_le_length (p := fun j => gone [.item j]) (l := [rest.length])
    rw [List.length_singleton] at hone
    rw [removeItems_append, List.length_append, ih, Nat.zero_add, hlast, List.length_append,
      List.length_singleton, List.range_succ, List.countP_append]
    omega

/-! ### Values -/

/-- Nothing is taken out. -/
def nowhere : Path → Bool := fun _ => false

theorem removeItems_nowhere (h : ∀ v ∈ items, v.remove nowhere = v) (index : Nat) :
    removeItems nowhere index items = items := by
  induction items generalizing index with
  | nil => rfl
  | cons v rest ih =>
    obtain ⟨hv, hrest⟩ := List.forall_mem_cons.1 h
    rw [removeItems_cons, ih hrest]
    exact congrArg (· :: rest) hv

theorem removeFields_nowhere (h : ∀ field ∈ fields, field.2.remove nowhere = field.2) :
    removeFields nowhere fields = fields := by
  induction fields with
  | nil => rfl
  | cons field rest ih =>
    obtain ⟨key, v⟩ := field
    obtain ⟨hv, hrest⟩ := List.forall_mem_cons.1 h
    rw [removeFields_cons, ih hrest]
    exact congrArg (fun w => (key, w) :: rest) hv

@[simp] theorem remove_nowhere (v : Json) : v.remove nowhere = v := by
  induction v using Json.induct with
  | scalar v hi hf =>
    cases v with
    | arr items => cases hi
    | obj fields => cases hf
    | _ => rfl
  | arr items ih => exact congrArg Json.arr (removeItems_nowhere ih 0)
  | obj fields ih => exact congrArg Json.obj (removeFields_nowhere ih)

theorem removeItems_eq_self {index : Nat}
    (h : ∀ i, index ≤ i → inside gone [.item i] = nowhere) :
    removeItems gone index items = items :=
  (removeItems_congr fun i hi _ => h i hi).trans
    (removeItems_nowhere (fun v _ => remove_nowhere v) index)

theorem get?_remove :
    (v.remove gone).get? key =
      (v.get? key).map fun w => (left? (inside gone [.field key]) w).getD .null := by
  cases v with
  | obj fields =>
    simp only [remove, get?]
    induction fields with
    | nil => rfl
    | cons field rest ih =>
      obtain ⟨k, v⟩ := field
      rw [removeFields_cons, Fields.get?_cons, Fields.get?_cons]
      split_ifs with hk
      · rw [hk]
        rfl
      · exact ih
  | _ => rfl

theorem getElem?_removeItems {i : Nat} (hi : items[i]? = some v) (h : gone [.item i] = false) :
    (removeItems gone 0 items)[i - (List.range i).countP fun j => gone [.item j]]? =
      some (v.remove (inside gone [.item i])) := by
  obtain ⟨hlt, rfl⟩ := List.getElem?_eq_some_iff.1 hi
  have hsplit : items = items.take i ++ items[i] :: items.drop (i + 1) := by
    rw [List.getElem_cons_drop, List.take_append_drop]
  have hlen : (items.take i).length = i := List.length_take_of_le (Nat.le_of_lt hlt)
  have hlen' := length_removeItems gone (items.take i)
  rw [hlen] at hlen'
  have hitem : left? (inside gone [.item i]) items[i] =
      some (items[i].remove (inside gone [.item i])) := by
    rw [left?]
    exact if_neg (ne_true_of_eq_false h)
  conv_lhs => rw [hsplit]
  rw [removeItems_append, hlen, Nat.zero_add, removeItems_cons, hitem, ← hlen',
    List.getElem?_append_right (Nat.le_refl _), Nat.sub_self]
  rfl

/-- **What stands at a path stands at the moved path afterwards**, unless it or a value around it
was taken out. -/
theorem at?_moved {path : Path} (hat : at? path v = some w)
    (hgone : ∀ p, p ≠ [] → p <+: path → gone p = false) :
    at? (moved gone path) (v.remove gone) = some (w.remove (inside gone path)) := by
  induction path generalizing v gone with
  | nil =>
    cases hat
    rfl
  | cons step path ih =>
    obtain ⟨u, hu, hat⟩ := Option.bind_eq_some_iff.1 (at?_cons step path v ▸ hat)
    have hstep : gone [step] = false :=
      hgone _ (List.cons_ne_nil _ _) (List.cons_prefix_cons.2 ⟨rfl, List.nil_prefix⟩)
    have hgone' : ∀ p, p ≠ [] → p <+: path → inside gone [step] p = false := fun p _ hpre =>
      hgone _ (List.cons_ne_nil _ _) (List.cons_prefix_cons.2 ⟨rfl, hpre⟩)
    have hrest := ih hat hgone'
    rw [inside_inside] at hrest
    cases step with
    | field key =>
      have hleft : left? (inside gone [.field key]) u =
          some (u.remove (inside gone [.field key])) := if_neg (ne_true_of_eq_false hstep)
      have hget : v.get? key = some u := hu
      rw [moved, at?_field, get?_remove, hget, Option.map_some, hleft]
      exact hrest
    | item i =>
      obtain ⟨items, rfl, hi⟩ := exists_items_of_child? hu
      rw [moved, remove, at?_item_arr, getElem?_removeItems hi hstep]
      exact hrest

/-- Where all that is taken out in addition is in one field, only that field changes. -/
theorem remove_eq_set (hd : ∀ fields, v = .obj fields → (fields.map Prod.fst).Nodup)
    (hw : v.get? key = some w)
    (h : ∀ key', key' ≠ key → inside gone' [.field key'] = inside gone [.field key']) :
    v.remove gone' =
      (v.remove gone).set key ((left? (inside gone' [.field key]) w).getD .null) := by
  obtain ⟨fields, rfl⟩ := exists_fields_of_get? hw
  obtain ⟨done, rest, rfl⟩ := List.append_of_mem (Fields.mem_of_get? hw)
  have hn := hd _ rfl
  have hne : ∀ k ∈ done.map Prod.fst ++ rest.map Prod.fst, k ≠ key := by
    rw [List.map_append, List.map_cons] at hn
    rintro k hk rfl
    exact (List.nodup_middle.1 hn).notMem hk
  have hdone : removeFields gone' done = removeFields gone done :=
    removeFields_congr fun k hk => h k (hne k (List.mem_append_left _ hk))
  have hrest : removeFields gone' rest = removeFields gone rest :=
    removeFields_congr fun k hk => h k (hne k (List.mem_append_right _ hk))
  have hn' : ((removeFields gone done ++ (key, (left? (inside gone [.field key]) w).getD .null) ::
      removeFields gone rest).map Prod.fst).Nodup := by
    simpa only [List.map_append, List.map_cons, map_fst_removeFields] using hn
  simp only [remove, removeFields_append, removeFields_cons, hdone, hrest]
  rw [set_append hn']

end Json
end ComponentLookup
