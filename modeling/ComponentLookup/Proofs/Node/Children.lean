import ComponentLookup.Proofs.Json.Distinct
import ComponentLookup.Proofs.Json.Path
import ComponentLookup.Node.Basic

/-!
# The nodes of a tree

The children of a node are the nodes that stand in its fields, alone or as items of a list
(`Json.childNodes`), and the nodes of a tree are the root and the nodes of its children
(`Json.NodeAt`).  A node in any other place, such as a list in a list, is not one of the tree.

Children stand side by side: no path goes through two of them (`eq_of_prefix_childNodes`), and their
places come among those of the parent in order (`sublist_placesUnder_childNodes`).
-/

namespace ComponentLookup

namespace Json

/-- The nodes among the items of the list in a field, from an index on, with their paths. -/
def nodesInItems (key : String) (index : Nat) : List Json → List (Path × Json)
  | [] => []
  | v :: rest =>
    if v.isNode then ([.field key, .item index], v) :: nodesInItems key (index + 1) rest
    else nodesInItems key (index + 1) rest

/-- The nodes that stand in a field, alone or in a list, with their paths. -/
def nodesInField (key : String) : Json → List (Path × Json)
  | .arr items => nodesInItems key 0 items
  | v => if v.isNode then [([.field key], v)] else []

/-- The children of a node with their paths, in order. -/
def childNodes : Json → List (Path × Json)
  | .obj fields => fields.flatMap fun field => nodesInField field.1 field.2
  | _ => []

/-- The path leads to a node of the tree: the root is one, and so are the nodes of its children. -/
inductive NodeAt : Json → Path → Json → Prop
  | root {tree : Json} : tree.isNode = true → NodeAt tree [] tree
  | child {tree v : Json} {path : Path} {child : Path × Json} :
      child ∈ tree.childNodes → NodeAt child.2 path v → NodeAt tree (child.1 ++ path) v

variable {v w tree : Json} {key : String} {items : List Json} {fields : Fields} {path : Path}
  {c d : Path × Json}

theorem mem_nodesInItems {index : Nat} (h : c ∈ nodesInItems key index items) :
    ∃ i, items[i]? = some c.2 ∧ c.2.isNode = true ∧ c.1 = [.field key, .item (index + i)] := by
  induction items generalizing index with
  | nil => cases h
  | cons v rest ih =>
    have hrest : c ∈ nodesInItems key (index + 1) rest → ∃ i, (v :: rest)[i]? = some c.2 ∧
        c.2.isNode = true ∧ c.1 = [.field key, .item (index + i)] := fun hc => by
      obtain ⟨i, hi, hv, heq⟩ := ih hc
      exact ⟨i + 1, hi, hv, by rw [heq, Nat.add_assoc, Nat.add_comm 1 i]⟩
    rw [nodesInItems] at h
    split_ifs at h with hv
    · rcases List.mem_cons.1 h with rfl | h
      · exact ⟨0, rfl, hv, rfl⟩
      · exact hrest h
    · exact hrest h

/-- A node in a field stands there alone, or in the list there. -/
theorem mem_nodesInField (h : c ∈ nodesInField key v) :
    c.2.isNode = true ∧ (v = c.2 ∧ c.1 = [.field key] ∨
      ∃ items i, v = .arr items ∧ items[i]? = some c.2 ∧ c.1 = [.field key, .item i]) := by
  cases v with
  | arr items =>
    obtain ⟨i, hi, hv, heq⟩ := mem_nodesInItems h
    exact ⟨hv, .inr ⟨items, i, rfl, hi, by rw [heq, Nat.zero_add]⟩⟩
  | _ =>
    simp only [nodesInField, List.mem_ite_nil_right, List.mem_singleton] at h
    obtain ⟨hv, rfl⟩ := h
    exact ⟨hv, .inl ⟨rfl, rfl⟩⟩

/-- The path of a node in a field leads into the field, and perhaps to an item there. -/
theorem path_of_mem_nodesInField (h : c ∈ nodesInField key v) :
    c.1 = [.field key] ∨ ∃ i, c.1 = [.field key, .item i] := by
  obtain ⟨-, ⟨-, heq⟩ | ⟨_, i, -, -, heq⟩⟩ := mem_nodesInField h
  · exact .inl heq
  · exact .inr ⟨i, heq⟩

theorem prefix_of_mem_nodesInField (h : c ∈ nodesInField key v) : [.field key] <+: c.1 := by
  rcases path_of_mem_nodesInField h with heq | ⟨i, heq⟩
  · exact heq ▸ List.prefix_rfl
  · exact heq ▸ List.prefix_append [Step.field key] [Step.item i]

theorem mem_childNodes (h : c ∈ childNodes v) :
    ∃ fields, v = .obj fields ∧ ∃ field ∈ fields, c ∈ nodesInField field.1 field.2 := by
  cases v with
  | obj fields => exact ⟨fields, rfl, List.mem_flatMap.1 h⟩
  | _ => cases h

theorem ne_nil_of_mem_childNodes (h : c ∈ childNodes v) : c.1 ≠ [] := by
  obtain ⟨_, -, _, -, hc⟩ := mem_childNodes h
  exact (prefix_of_mem_nodesInField hc).ne_nil (List.cons_ne_nil _ _)

theorem isNode_of_mem_childNodes (h : c ∈ childNodes v) : c.2.isNode = true := by
  obtain ⟨_, -, _, -, hc⟩ := mem_childNodes h
  exact (mem_nodesInField hc).1

/-- The child stands at its path. -/
theorem at?_of_mem_childNodes (hv : v.DistinctKeys) (h : c ∈ childNodes v) :
    at? c.1 v = some c.2 := by
  obtain ⟨fields, rfl, field, hf, hc⟩ := mem_childNodes h
  have hget : (Json.obj fields).get? field.1 = some field.2 := Fields.get?_of_mem hv.1 hf
  obtain ⟨-, ⟨hu, heq⟩ | ⟨items, i, hu, hi, heq⟩⟩ := mem_nodesInField hc
  · rw [heq, at?_singleton, hget, hu]
  · rw [heq, at?_field, hget, hu, Option.bind_some, at?_item_singleton, hi]

theorem distinctKeys_of_mem_childNodes (hv : v.DistinctKeys) (h : c ∈ childNodes v) :
    c.2.DistinctKeys := by
  obtain ⟨fields, rfl, field, hf, hc⟩ := mem_childNodes h
  have hfield : field.2.DistinctKeys := distinctKeysFields_iff.1 hv.2 field hf
  obtain ⟨-, ⟨hu, -⟩ | ⟨items, i, hu, hi, -⟩⟩ := mem_nodesInField hc
  · exact hu ▸ hfield
  · rw [hu] at hfield
    exact hfield.mem (List.mem_of_getElem? hi)

/-- A node has no items. -/
theorem at?_item_of_isNode (h : v.isNode = true) (i : Nat) : at? [.item i] v = none := by
  obtain ⟨fields, rfl⟩ := exists_fields_of_isNode h
  rfl

/-- No child stands inside another one. -/
theorem path_eq_of_isPrefix (hv : v.DistinctKeys) (hc : c ∈ childNodes v) (hd : d ∈ childNodes v)
    (h : c.1 <+: d.1) : c.1 = d.1 := by
  obtain ⟨rest, heq⟩ := h
  have hat := at?_of_mem_childNodes hv hd
  rw [← heq, at?_append, at?_of_mem_childNodes hv hc, Option.bind_some] at hat
  have hitem := at?_item_of_isNode (isNode_of_mem_childNodes hc)
  obtain ⟨_, -, _, -, hc⟩ := mem_childNodes hc
  obtain ⟨_, -, _, -, hd⟩ := mem_childNodes hd
  rcases path_of_mem_nodesInField hc with hc | ⟨i, hc⟩ <;>
    rcases path_of_mem_nodesInField hd with hd | ⟨j, hd⟩ <;>
    rw [hc, hd] at heq <;>
    simp only [List.cons_append, List.nil_append, List.cons.injEq, reduceCtorEq, and_false] at heq
  · rw [hc, hd, heq.1]
  · rw [heq.2, hitem] at hat
    cases hat
  · rw [hc, hd, heq.1, heq.2.1]

/-- No path goes through two children. -/
theorem eq_of_prefix_childNodes (hv : v.DistinctKeys) (hc : c ∈ childNodes v)
    (hd : d ∈ childNodes v) (hcp : c.1 <+: path) (hdp : d.1 <+: path) : c = d := by
  have hpath : c.1 = d.1 := (List.prefix_or_prefix_of_prefix hcp hdp).elim
    (path_eq_of_isPrefix hv hc hd) fun h => (path_eq_of_isPrefix hv hd hc h).symm
  have hat := at?_of_mem_childNodes hv hc
  rw [hpath, at?_of_mem_childNodes hv hd] at hat
  exact Prod.ext hpath (Option.some.inj hat).symm

theorem NodeAt.at?_eq (hd : tree.DistinctKeys) (h : NodeAt tree path v) :
    at? path tree = some v := by
  induction h with
  | root => rfl
  | @child tree v path c hc _ ih =>
    rw [at?_append, at?_of_mem_childNodes hd hc, Option.bind_some]
    exact ih (distinctKeys_of_mem_childNodes hd hc)

theorem NodeAt.eq (hd : tree.DistinctKeys) (h : NodeAt tree path v) (h' : NodeAt tree path w) :
    v = w :=
  Option.some.inj ((h.at?_eq hd).symm.trans (h'.at?_eq hd))

/-- The places in a part of a value, as places of the value. -/
def placesUnder (part : Path × Json) : List (Path × Json) :=
  (places part.2).map (Prod.map (part.1 ++ ·) id)

theorem sublist_placesUnder_nodesInItems (index : Nat) :
    ((nodesInItems key index items).flatMap placesUnder).Sublist
      ((placesInItems index items).map (Prod.map (.field key :: ·) id)) := by
  induction items generalizing index with
  | nil => exact List.Sublist.refl _
  | cons v rest ih =>
    rw [nodesInItems, placesInItems, List.map_append]
    split_ifs with hv
    · rw [List.flatMap_cons, placesUnder, List.map_map]
      exact (List.Sublist.refl _).append (ih (index + 1))
    · exact (ih (index + 1)).trans (List.sublist_append_right _ _)

theorem sublist_placesUnder_nodesInField :
    ((nodesInField key v).flatMap placesUnder).Sublist
      ((places v).map (Prod.map (.field key :: ·) id)) := by
  cases v with
  | arr items =>
    exact (sublist_placesUnder_nodesInItems 0).trans (List.sublist_cons_self _ _)
  | _ =>
    simp only [nodesInField]
    split_ifs
    · rw [List.flatMap_singleton]
      exact List.Sublist.refl _
    · exact List.nil_sublist _

/-- **The places of the children come in order** among those of the parent. -/
theorem sublist_placesUnder_childNodes (fields : Fields) :
    ((childNodes (.obj fields)).flatMap placesUnder).Sublist (placesInFields fields) := by
  rw [childNodes]
  induction fields with
  | nil => exact List.Sublist.refl _
  | cons field rest ih =>
    rw [List.flatMap_cons, List.flatMap_append]
    exact sublist_placesUnder_nodesInField.append ih

end Json

end ComponentLookup
