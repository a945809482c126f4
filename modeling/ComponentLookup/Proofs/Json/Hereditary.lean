import ComponentLookup.Proofs.Json.Update

/-!
# Conditions on a value and all its parts

A condition is *hereditary* if a list or an object satisfies it just if its parts do, and the object
names no field twice (`Json.Hereditary`).  Such a condition holds of the parts of a value, and
assigning and changing fields keeps it (`Hereditary.set`, `Hereditary.update`), so that it is enough
to look at what is assigned.
-/

namespace ComponentLookup

namespace Fields

variable {key : String} {v : Json} {fields : Fields}

theorem map_fst_put_of_mem (h : key ∈ fields.map Prod.fst) :
    (put key v fields).map Prod.fst = fields.map Prod.fst := by
  induction fields with
  | nil => cases h
  | cons field rest ih =>
    obtain ⟨k, w⟩ := field
    simp only [put]
    split_ifs with hk
    · rfl
    · simp [ih ((List.mem_cons.1 h).resolve_left (Ne.symm hk))]

/-- A field with a new name goes last. -/
theorem put_of_notMem (h : key ∉ fields.map Prod.fst) :
    put key v fields = fields ++ [(key, v)] := by
  induction fields with
  | nil => rfl
  | cons field rest ih =>
    obtain ⟨k, w⟩ := field
    simp only [List.map_cons, List.mem_cons, not_or] at h
    rw [put, if_neg (Ne.symm h.1), ih h.2, List.cons_append]

/-- Where no name comes twice, the name of a field is new to those in front of it. -/
theorem notMem_of_nodup {done rest : Fields}
    (h : ((done ++ (key, v) :: rest).map Prod.fst).Nodup) : key ∉ done.map Prod.fst := by
  intro hmem
  rw [List.map_append, List.nodup_append] at h
  exact h.2.2 key hmem key (by simp) rfl

theorem nodup_put (h : (fields.map Prod.fst).Nodup) : ((put key v fields).map Prod.fst).Nodup := by
  by_cases hk : key ∈ fields.map Prod.fst
  · rwa [map_fst_put_of_mem hk]
  · rw [put_of_notMem hk, List.map_append]
    refine List.nodup_append.2 ⟨h, by simp, fun a ha b hb hab => hk ?_⟩
    obtain rfl : b = key := List.mem_singleton.1 hb
    exact hab ▸ ha

theorem forall_mem_put {P : Json → Prop} (h : ∀ field ∈ fields, P field.2) (hv : P v) :
    ∀ field ∈ put key v fields, P field.2 := by
  induction fields with
  | nil => simpa [put] using hv
  | cons field rest ih =>
    obtain ⟨k, w⟩ := field
    rw [List.forall_mem_cons] at h
    simp only [put]
    split_ifs with hk <;> rw [List.forall_mem_cons]
    · exact ⟨hv, h.2⟩
    · exact ⟨h.1, ih h.2⟩

/-- Where no name comes twice, every field is found under its name. -/
theorem get?_of_mem (hn : (fields.map Prod.fst).Nodup) (h : (key, v) ∈ fields) :
    get? key fields = some v := by
  induction fields with
  | nil => cases h
  | cons field rest ih =>
    obtain ⟨k, w⟩ := field
    rw [List.map_cons, List.nodup_cons] at hn
    rw [get?_cons]
    rcases List.mem_cons.1 h with heq | h
    · cases heq
      rw [if_pos rfl]
    · have hk : k ≠ key := fun hk => hn.1 (hk ▸ List.mem_map.2 ⟨_, h, rfl⟩)
      rw [if_neg hk, ih hn.2 h]

end Fields

namespace Json

/-- A condition that lists and objects satisfy just if all their parts do; an object that satisfies
it names no field twice. -/
structure Hereditary (P : Json → Prop) : Prop where
  null : P .null
  str (s : String) : P (.str s)
  arr_iff {items : List Json} : P (.arr items) ↔ ∀ v ∈ items, P v
  obj_iff {fields : Fields} :
    P (.obj fields) ↔ (fields.map Prod.fst).Nodup ∧ ∀ field ∈ fields, P field.2

namespace Hereditary

variable {P : Json → Prop} {v w : Json} {key : String} {f : Json → Json} {items : List Json}
  {fields : Fields}

theorem field (h : Hereditary P) (hobj : P (.obj fields))
    (hw : Fields.get? key fields = some w) : P w :=
  (h.obj_iff.1 hobj).2 _ (Fields.mem_of_get? hw)

theorem get? (h : Hereditary P) (hv : P v) (hw : v.get? key = some w) : P w := by
  obtain ⟨fields, rfl⟩ := exists_fields_of_get? hw
  exact h.field hv hw

theorem mem (h : Hereditary P) (hitems : P (.arr items)) (hv : v ∈ items) : P v :=
  h.arr_iff.1 hitems v hv

theorem set (h : Hereditary P) (hv : P v) (hw : P w) : P (v.set key w) := by
  cases v with
  | obj fields =>
    obtain ⟨hnodup, hfields⟩ := h.obj_iff.1 hv
    exact h.obj_iff.2 ⟨Fields.nodup_put hnodup, Fields.forall_mem_put hfields hw⟩
  | _ => exact hv

theorem update (h : Hereditary P) (hv : P v) (hf : ∀ w, v.get? key = some w → P (f w)) :
    P (v.update key f) := by
  cases hget : v.get? key with
  | none => rwa [update_of_get?_eq_none hget]
  | some w =>
    rw [← set_eq_update hget]
    exact h.set hv (hf w hget)

end Hereditary

end Json

end ComponentLookup
