import ComponentLookup.Node.Basic
import Mathlib.Data.List.Basic
import Mathlib.Tactic.SplitIfs

/-!
# Fields read and assigned

The laws of reading and assigning the fields of an object, first for lists of fields and then for
values.

* `Json.update` : changes the value of one field and nothing else; a value that lacks the field
  stays as it is.  The edits of the resolver are written with it.
* `Json.kind?_update` : a change of another field keeps the type of a node.
* `Json.update_update` : two changes of one field are one change.

`Fields.put_append` needs that a name does not occur twice (`Json.DistinctKeys`); the other laws
hold of all lists of fields.
-/

namespace ComponentLookup

namespace Fields

/-! ### Lists of fields -/

/-- Changes the value of a field, if it is there. -/
def update (key : String) (f : Json → Json) : Fields → Fields
  | [] => []
  | (k, v) :: rest => if k = key then (k, f v) :: rest else (k, v) :: update key f rest

variable {key key' : String} {v w : Json} {f g : Json → Json} {fields : Fields}

@[simp] theorem get?_nil : get? key [] = none := rfl

theorem get?_cons (k : String) :
    get? key ((k, v) :: fields) = if k = key then some v else get? key fields := rfl

theorem mem_of_get? (h : get? key fields = some v) : (key, v) ∈ fields := by
  induction fields with
  | nil => cases h
  | cons field rest ih =>
    obtain ⟨k, w⟩ := field
    rw [get?_cons] at h
    split_ifs at h with hk
    · cases h; subst hk; exact List.mem_cons_self
    · exact List.mem_cons_of_mem _ (ih h)

@[simp] theorem get?_put_self : get? key (put key v fields) = some v := by
  induction fields with
  | nil => simp [put, get?_cons]
  | cons field rest ih =>
    obtain ⟨k, w⟩ := field
    simp only [put]
    split_ifs with hk
    · simp [get?_cons, hk]
    · simp [get?_cons, hk, ih]

theorem get?_put_of_ne (h : key' ≠ key) : get? key' (put key v fields) = get? key' fields := by
  induction fields with
  | nil => simp [put, get?_cons, h.symm]
  | cons field rest ih =>
    obtain ⟨k, w⟩ := field
    simp only [put]
    split_ifs with hk
    · subst hk; simp [get?_cons, h.symm]
    · simp [get?_cons, ih]

/-- Assigning the value that a field has changes nothing. -/
theorem put_eq_self (h : get? key fields = some v) : put key v fields = fields := by
  induction fields with
  | nil => cases h
  | cons field rest ih =>
    obtain ⟨k, w⟩ := field
    rw [get?_cons] at h
    simp only [put]
    split_ifs at h ⊢ with hk
    · cases h; rfl
    · rw [ih h]

/-- The last of two assignments counts. -/
theorem put_put : put key w (put key v fields) = put key w fields := by
  induction fields with
  | nil => simp [put]
  | cons field rest ih =>
    obtain ⟨k, u⟩ := field
    simp only [put]
    split_ifs with hk
    · simp [put, hk]
    · simp [put, hk, ih]

/-- A field whose name does not come earlier is assigned where it stands. -/
theorem put_append {done : Fields} (h : key ∉ done.map Prod.fst) :
    put key w (done ++ (key, v) :: fields) = done ++ (key, w) :: fields := by
  induction done with
  | nil => simp [put]
  | cons field rest ih =>
    obtain ⟨k, u⟩ := field
    simp only [List.map_cons, List.mem_cons, not_or] at h
    simp [put, Ne.symm h.1, ih h.2]

theorem update_eq_put (h : get? key fields = some v) :
    update key f fields = put key (f v) fields := by
  induction fields with
  | nil => cases h
  | cons field rest ih =>
    obtain ⟨k, w⟩ := field
    rw [get?_cons] at h
    simp only [update, put]
    split_ifs at h ⊢ with hk
    · cases h; rfl
    · rw [ih h]

theorem update_of_get?_eq_none (h : get? key fields = none) : update key f fields = fields := by
  induction fields with
  | nil => rfl
  | cons field rest ih =>
    obtain ⟨k, w⟩ := field
    rw [get?_cons] at h
    simp only [update]
    split_ifs at h ⊢ with hk
    rw [ih h]

@[simp] theorem get?_update_self : get? key (update key f fields) = (get? key fields).map f := by
  cases h : get? key fields with
  | none => simp [update_of_get?_eq_none h, h]
  | some v => simp [update_eq_put h]

theorem get?_update_of_ne (hne : key' ≠ key) :
    get? key' (update key f fields) = get? key' fields := by
  cases h : get? key fields with
  | none => rw [update_of_get?_eq_none h]
  | some v => rw [update_eq_put h, get?_put_of_ne hne]

theorem update_update : update key g (update key f fields) = update key (g ∘ f) fields := by
  induction fields with
  | nil => rfl
  | cons field rest ih =>
    obtain ⟨k, v⟩ := field
    simp only [update]
    split_ifs with hk
    · simp [update, hk]
    · simp [update, hk, ih]

theorem update_congr (h : ∀ v, get? key fields = some v → f v = g v) :
    update key f fields = update key g fields := by
  cases hv : get? key fields with
  | none => rw [update_of_get?_eq_none hv, update_of_get?_eq_none hv]
  | some v => rw [update_eq_put hv, update_eq_put hv, h v hv]

end Fields

namespace Json

/-! ### Induction over a value -/

/-- Induction over a value: from the items of a list to the list, and from the fields of an object
to the object. -/
@[elab_as_elim]
theorem induct {motive : Json → Prop} (v : Json)
    (scalar : ∀ v : Json, v.items? = none → v.fields? = none → motive v)
    (arr : ∀ items : List Json, (∀ v ∈ items, motive v) → motive (.arr items))
    (obj : ∀ fields : Fields, (∀ field ∈ fields, motive field.2) → motive (.obj fields)) :
    motive v :=
  @Json.rec motive (fun items => ∀ v ∈ items, motive v)
    (fun fields => ∀ field ∈ fields, motive field.2) (fun field => motive field.2)
    (scalar .null rfl rfl) (fun b => scalar (.bool b) rfl rfl) (fun n => scalar (.int n) rfl rfl)
    (fun x => scalar (.float x) rfl rfl) (fun s => scalar (.str s) rfl rfl) arr obj
    (List.forall_mem_nil _) (fun _ _ hv hrest => List.forall_mem_cons.2 ⟨hv, hrest⟩)
    (List.forall_mem_nil _) (fun _ _ hv hrest => List.forall_mem_cons.2 ⟨hv, hrest⟩)
    (fun _ _ hv => hv) v

/-! ### Values -/

/-- Changes the value of a field, if the value is an object that has it. -/
def update (v : Json) (key : String) (f : Json → Json) : Json :=
  match v with
  | .obj fields => .obj (Fields.update key f fields)
  | v => v

variable {v w : Json} {key key' kind : String} {f g : Json → Json}

theorem exists_fields_of_get? (h : v.get? key = some w) : ∃ fields, v = .obj fields := by
  cases v <;> simp only [get?, reduceCtorEq] at h
  exact ⟨_, rfl⟩

theorem exists_fields_of_isNode (h : v.isNode = true) : ∃ fields, v = .obj fields := by
  cases v <;> simp only [isNode, kind?, get?, Option.bind_none, Option.isSome_none,
    Bool.false_eq_true] at h
  exact ⟨_, rfl⟩

theorem isKind_iff : v.isKind kind = true ↔ v.kind? = some kind := by
  simp [isKind]

theorem isNode_of_isKind (h : v.isKind kind = true) : v.isNode = true := by
  simp [isNode, isKind_iff.1 h]

theorem isKind_eq_false_of_isKind {other : String} (h : v.isKind kind = true)
    (hne : kind ≠ other) : v.isKind other = false := by
  rw [isKind_iff] at h
  simp [isKind, h, hne]

theorem not_isKind_of_isKind {other : String} (h : v.isKind kind = true) (hne : kind ≠ other) :
    ¬ v.isKind other = true := by
  simp [isKind_eq_false_of_isKind h hne]

theorem get?_set_self (h : v.isNode = true) : (v.set key w).get? key = some w := by
  obtain ⟨fields, rfl⟩ := exists_fields_of_isNode h
  exact Fields.get?_put_self

theorem get?_set_of_ne (h : key' ≠ key) : (v.set key w).get? key' = v.get? key' := by
  cases v <;> try rfl
  exact Fields.get?_put_of_ne h

theorem kind?_set (h : key ≠ "type") : (v.set key w).kind? = v.kind? := by
  rw [kind?, get?_set_of_ne h.symm, kind?]

theorem isKind_set (h : key ≠ "type") : (v.set key w).isKind kind = v.isKind kind := by
  rw [isKind, kind?_set h, isKind]

theorem isNode_set (h : key ≠ "type") : (v.set key w).isNode = v.isNode := by
  rw [isNode, kind?_set h, isNode]

theorem set_eq_self (h : v.get? key = some w) : v.set key w = v := by
  obtain ⟨fields, rfl⟩ := exists_fields_of_get? h
  exact congrArg Json.obj (Fields.put_eq_self h)

theorem set_set (u : Json) : (v.set key w).set key u = v.set key u := by
  cases v <;> try rfl
  exact congrArg Json.obj Fields.put_put

theorem set_eq_update (h : v.get? key = some w) : v.set key (f w) = v.update key f := by
  obtain ⟨fields, rfl⟩ := exists_fields_of_get? h
  exact congrArg Json.obj (Fields.update_eq_put h).symm

theorem update_of_get?_eq_none (h : v.get? key = none) : v.update key f = v := by
  cases v <;> try rfl
  exact congrArg Json.obj (Fields.update_of_get?_eq_none h)

@[simp] theorem get?_update_self : (v.update key f).get? key = (v.get? key).map f := by
  cases v <;> try rfl
  exact Fields.get?_update_self

theorem get?_update_of_ne (h : key' ≠ key) : (v.update key f).get? key' = v.get? key' := by
  cases v <;> try rfl
  exact Fields.get?_update_of_ne h

theorem kind?_update (h : key ≠ "type") : (v.update key f).kind? = v.kind? := by
  rw [kind?, get?_update_of_ne h.symm, kind?]

theorem isKind_update (h : key ≠ "type") : (v.update key f).isKind kind = v.isKind kind := by
  rw [isKind, kind?_update h, isKind]

theorem isNode_update (h : key ≠ "type") : (v.update key f).isNode = v.isNode := by
  rw [isNode, kind?_update h, isNode]

theorem update_update : (v.update key f).update key g = v.update key (g ∘ f) := by
  cases v <;> try rfl
  exact congrArg Json.obj Fields.update_update

theorem update_congr (h : ∀ w, v.get? key = some w → f w = g w) :
    v.update key f = v.update key g := by
  cases v <;> try rfl
  exact congrArg Json.obj (Fields.update_congr h)

/-- A change that keeps the value of the field keeps everything. -/
theorem update_eq_self (h : ∀ w, v.get? key = some w → f w = w) : v.update key f = v := by
  cases hv : v.get? key with
  | none => exact update_of_get?_eq_none hv
  | some w => rw [← set_eq_update hv, h w hv, set_eq_self hv]

end Json

end ComponentLookup
