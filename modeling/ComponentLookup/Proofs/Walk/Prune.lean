import ComponentLookup.Proofs.Json.Distinct
import ComponentLookup.Proofs.Walk.Tour

/-!
# Pruning

A visitor may change nothing and answer each node by a function of that node (`Visitor.Decides`),
whatever state it keeps for itself.  All that its walk does is to take nodes out, and what is left
is a recursion on the tree (`prune`): no index, no list that becomes shorter under way, and no field
that is assigned while its siblings are visited.

`walk_eq_prune` says that **the walk prunes**, for every tree and every such function.  It goes
through the tour: the items that are done are pruned items (`Prune.items_eq`), and the parent that
the visit of the slots hands on has pruned fields and fields that are yet to come
(`Prune.slots_eq`).
-/

namespace ComponentLookup

open Json

variable {σ ε : Type}

/-- The visitor edits nothing, and its answer to a node is a function of the node.  No answer lets
the walk descend. -/
structure Visitor.Decides (visitor : Visitor σ ε) (act : Json → Option Action) : Prop where
  node_eq : ∀ site v s, (visitor.enter site v s).node = v
  edits_eq : ∀ site v s, (visitor.enter site v s).edits = []
  outcome_eq : ∀ site v s, (visitor.enter site v s).outcome = .ok ((act v).getD .descend)

namespace Prune

/-! ### The recursion -/

variable (act : Json → Option Action)

mutual

/-- A node without the nodes below it that are removed.  A node that is not descended into stays as
it is. -/
def prune : Json → Json
  | .obj fields =>
    match (act (.obj fields)).getD .descend with
    | .descend => .obj (pruneFields fields)
    | .skip | .remove => .obj fields
  | v => v

/-- The fields of a node that is descended into.  A child that is removed leaves null, and only a
list that holds a node is gone through. -/
def pruneFields : List (String × Json) → List (String × Json)
  | [] => []
  | (key, .arr siblings) :: rest =>
    (key, if key ≠ "type" ∧ siblings.any isNode then .arr (pruneItems siblings)
      else .arr siblings) :: pruneFields rest
  | (key, v) :: rest =>
    (key, if key ≠ "type" ∧ v.isNode then
        if act v = some .remove then .null else prune v
      else v) :: pruneFields rest

/-- The items of a list, less the nodes that are removed. -/
def pruneItems : List Json → List Json
  | [] => []
  | v :: rest =>
    if v.isNode then
      if act v = some .remove then pruneItems rest else prune v :: pruneItems rest
    else v :: pruneItems rest

end

/-! ### The tour of a visitor that decides -/

variable {act} {visitor : Visitor σ ε}

theorem isLocal_of_decides (h : visitor.Decides act) : visitor.IsLocal fun _ => True where
  edits_eq site v s _ := h.edits_eq site v s
  node_eq site v s _ _ := h.node_eq site v s
  enter _ _ _ _ := trivial
  leave _ _ _ _ := trivial

theorem answers_of_decides (h : visitor.Decides act) : visitor.Answers fun _ => True :=
  fun site v s _ => ⟨_, h.outcome_eq site v s⟩

/-- What is left of a node after its visit. -/
def left? (act : Json → Option Action) (v : Json) : Option Json :=
  if act v = some .remove then none else some (prune act v)

theorem prune_of_skip {fields : Fields} (h : act (.obj fields) = some .skip) :
    prune act (.obj fields) = .obj fields := by
  simp [prune, h]

theorem prune_of_remove {fields : Fields} (h : act (.obj fields) = some .remove) :
    prune act (.obj fields) = .obj fields := by
  simp [prune, h]

theorem prune_of_descend {fields : Fields} (h : (act (.obj fields)).getD .descend = .descend) :
    prune act (.obj fields) = .obj (pruneFields act fields) := by
  simp [prune, h]

theorem pruneFields_obj (key : String) (fields : Fields) (rest : List (String × Json)) :
    pruneFields act ((key, .obj fields) :: rest) =
      (key, if key ≠ "type" ∧ (Json.obj fields).isNode then
          (left? act (.obj fields)).getD .null
        else .obj fields) :: pruneFields act rest := by
  rw [pruneFields]
  · unfold left?
    split_ifs <;> rfl
  · exact fun _ => Json.noConfusion

theorem pruneItems_of_isNode {v : Json} (hv : v.isNode = true) (rest : List Json) :
    pruneItems act (v :: rest) = (left? act v).toList ++ pruneItems act rest := by
  unfold left?
  rw [pruneItems, if_pos hv]
  split_ifs <;> rfl

-- The three statements follow the three functions of the tour.  A tour whose visitor decides does
-- not fail, so that only the answers of the visitor make cases.
mutual

theorem node_eq (h : visitor.Decides act) (before : Site) (after : Json → Site) :
    ∀ (v : Json) (s : σ), v.isNode = true → v.DistinctKeys →
      (Tour.node visitor before after v s).node? = left? act v
  | .obj fields, s, hv, hd => by
    have hout := h.outcome_eq before (.obj fields) s
    have hnode := h.node_eq before (.obj fields) s
    have hfail := Tour.failure_slots (isLocal_of_decides h) (answers_of_decides h) (.obj fields)
      fields (visitor.enter before (.obj fields) s).state trivial
    have hslots := slots_eq h fields [] (visitor.enter before (.obj fields) s).state hd.1 hd.2
    simp only [List.nil_append] at hslots
    simp only [Tour.node, hout, hfail, hnode, hslots, left?]
    cases hact : act (.obj fields) with
    | none =>
      have hdescend : (act (.obj fields)).getD .descend = .descend := by rw [hact]; rfl
      simp [prune_of_descend hdescend]
    | some action =>
      cases action with
      | descend =>
        have hdescend : (act (.obj fields)).getD .descend = .descend := by rw [hact]; rfl
        simp [prune_of_descend hdescend]
      | skip => simp [prune_of_skip hact]
      | remove => simp
  | .null, s, hv, hd | .bool _, s, hv, hd | .int _, s, hv, hd | .float _, s, hv, hd
  | .str _, s, hv, hd | .arr _, s, hv, hd => by simp [isNode, kind?, get?] at hv

theorem slots_eq (h : visitor.Decides act) :
    ∀ (fields done : List (String × Json)) (s : σ), ((done ++ fields).map Prod.fst).Nodup →
      DistinctKeysFields fields →
      (Tour.slots visitor (.obj (done ++ fields)) fields s).node =
        .obj (done ++ pruneFields act fields)
  | [], done, s, hn, hd => by simp [Tour.slots, pruneFields]
  | (key, .arr siblings) :: rest, done, s, hn, hd => by
    have hnext := fun v => slots_eq h rest (done ++ [(key, v)])
    simp only [List.append_assoc, List.singleton_append] at hnext
    have hn' : ∀ v : Json, ((done ++ (key, v) :: rest).map Prod.fst).Nodup := by simpa using hn
    have hfail := Tour.failure_items (isLocal_of_decides h) (answers_of_decides h)
      (.obj (done ++ (key, .arr siblings) :: rest)) key [] siblings s trivial
    have hitems := items_eq h siblings (.obj (done ++ (key, .arr siblings) :: rest)) key [] s
      (distinctKeysItems_iff.1 hd.1)
    rw [Tour.slots, pruneFields]
    by_cases hslot : key ≠ "type" ∧ siblings.any isNode
    · simp only [if_pos hslot, hfail, hitems, List.nil_append, set_append hn]
      exact hnext _ _ (hn' _) hd.2
    · simp only [if_neg hslot]
      exact hnext _ _ (hn' _) hd.2
  | (key, .obj fields) :: rest, done, s, hn, hd => by
    have hnext := fun v => slots_eq h rest (done ++ [(key, v)])
    simp only [List.append_assoc, List.singleton_append] at hnext
    have hn' : ∀ v : Json, ((done ++ (key, v) :: rest).map Prod.fst).Nodup := by simpa using hn
    rw [Tour.slots_obj, pruneFields_obj]
    by_cases hslot : key ≠ "type" ∧ (Json.obj fields).isNode
    · have hfail := Tour.failure_node (isLocal_of_decides h) (answers_of_decides h)
        (.field (.obj (done ++ (key, .obj fields) :: rest)) key)
        (fun w => .field ((Json.obj (done ++ (key, .obj fields) :: rest)).set key w) key)
        (.obj fields) s trivial
      have hnode := node_eq h (.field (.obj (done ++ (key, .obj fields) :: rest)) key)
        (fun w => .field ((Json.obj (done ++ (key, .obj fields) :: rest)).set key w) key)
        (.obj fields) s hslot.2 hd.1
      simp only [if_pos hslot, hfail, hnode]
      rw [set_append hn]
      exact hnext _ _ (hn' _) hd.2
    · simp only [if_neg hslot]
      exact hnext _ _ (hn' _) hd.2
  | (key, .null) :: rest, done, s, hn, hd | (key, .bool _) :: rest, done, s, hn, hd
  | (key, .int _) :: rest, done, s, hn, hd | (key, .float _) :: rest, done, s, hn, hd
  | (key, .str _) :: rest, done, s, hn, hd => by
    have hnext := fun v => slots_eq h rest (done ++ [(key, v)]) s
    simp only [List.append_assoc, List.singleton_append] at hnext
    simpa [Tour.slots, pruneFields, isNode, kind?, get?] using hnext _ hn hd.2

theorem items_eq (h : visitor.Decides act) :
    ∀ (rest : List Json) (host : Json) (key : String) (done : List Json) (s : σ),
      (∀ v ∈ rest, v.DistinctKeys) →
      (Tour.items visitor host key done rest s).node =
        host.set key (.arr (done ++ pruneItems act rest))
  | [], host, key, done, s, hd => by simp [Tour.items, pruneItems]
  | v :: rest, host, key, done, s, hd => by
    have hnext := fun done s =>
      items_eq h rest host key done s fun w hw => hd w (List.mem_cons_of_mem v hw)
    by_cases hv : v.isNode = true
    · have hfail := Tour.failure_node (isLocal_of_decides h) (answers_of_decides h)
        (.item (host.set key (.arr (done ++ v :: rest))) key done.length)
        (fun w => .item (host.set key (.arr (done ++ w :: rest))) key done.length) v s trivial
      have hnode := node_eq h (.item (host.set key (.arr (done ++ v :: rest))) key done.length)
        (fun w => .item (host.set key (.arr (done ++ w :: rest))) key done.length) v s hv
        (hd v List.mem_cons_self)
      simp only [Tour.items, if_pos hv, hfail, hnode, hnext, pruneItems_of_isNode hv,
        List.append_assoc]
    · simp only [Tour.items, if_neg hv, hnext, pruneItems, List.append_assoc,
        List.singleton_append]

end

end Prune

/-! ### The walk -/

/-- **The walk prunes.**  A visitor that edits nothing and decides by the node alone leaves the
pruned tree behind, whatever it keeps in its state, and the walk ends without failure.  A root that
is to be removed stays. -/
theorem walk_eq_prune {visitor : Visitor σ ε} {act : Json → Option Action}
    (h : visitor.Decides act) {root : Json} (hroot : root.isNode = true)
    (hd : root.DistinctKeys) (s : σ) :
    (walk visitor root s).node = Prune.prune act root ∧ (walk visitor root s).failure = none := by
  have hl := Prune.isLocal_of_decides h
  refine ⟨?_, Tour.failure_walk hl (Prune.answers_of_decides h) hroot trivial⟩
  obtain ⟨fields, rfl⟩ := exists_fields_of_isNode hroot
  have hout := h.outcome_eq .root (.obj fields) s
  by_cases hact : act (.obj fields) = some .remove
  · rw [hact] at hout
    rw [Tour.walk_of_remove hout, h.node_eq, Prune.prune_of_remove hact]
  · have hstay : (visitor.enter .root (.obj fields) s).outcome ≠ .ok .remove := by
      rw [hout]
      cases hact' : act (.obj fields) with
      | none => simp
      | some action => simpa [hact'] using hact
    rw [Tour.walk_eq hl hroot trivial hstay]
    simp only [Prune.node_eq h .root (fun _ => .root) (.obj fields) s hroot hd, Prune.left?,
      if_neg hact, Option.getD_some]

/-! ### A sample -/

namespace Sample

/-- Empty statements are removed, and what is below an identifier is not looked at. -/
def sweep (v : Json) : Option Action :=
  if v.isKind "EmptyStatement" then some .remove
  else if v.isKind "Identifier" then some .skip
  else none

/-- Sweeps, and counts the nodes that it is shown. -/
def sweeper : Visitor Nat ShapeError where
  enter _ v n :=
    { node := v, edits := [], state := n + 1, outcome := .ok ((sweep v).getD .descend) }
  leave _ _ n := n
  growth := 0

/-- A node of the given type and name. -/
def named (type name : String) (fields : Fields) : Json :=
  .obj (("type", .str type) :: ("name", .str name) :: fields)

def empty : Json := named "EmptyStatement" "x" [("body", .arr [named "Block" "inner" []])]

/-- Empty statements side by side, at both ends of a list and between items that are no nodes, alone
in a field, and below an identifier. -/
def littered : Json :=
  named "Block" "outer"
    [("body", .arr [empty, empty, .null, named "Block" "a" [("body", .arr [.int 1, empty])], empty,
        .int 7, named "Identifier" "b" [("first", empty)], empty]),
      ("test", empty), ("range", .arr [.int 0, .int 9])]

/-- What is left of it. -/
def swept : Json :=
  named "Block" "outer"
    [("body", .arr [.null, named "Block" "a" [("body", .arr [.int 1])], .int 7,
        named "Identifier" "b" [("first", empty)]]),
      ("test", .null), ("range", .arr [.int 0, .int 9])]

theorem decides_sweeper : sweeper.Decides sweep where
  node_eq _ _ _ := rfl
  edits_eq _ _ _ := rfl
  outcome_eq _ _ _ := rfl

end Sample

open Sample in
theorem walk_sweeper_littered :
    sweeper.Decides sweep ∧ littered.isNode = true ∧ littered.DistinctKeys ∧
      (walk sweeper littered 0).node = swept ∧ (walk sweeper littered 0).failure = none := by
  have hroot : littered.isNode = true := by decide
  have hd : littered.DistinctKeys := by decide
  obtain ⟨hnode, hfailure⟩ := walk_eq_prune decides_sweeper hroot hd 0
  exact ⟨decides_sweeper, hroot, hd, hnode.trans rfl, hfailure⟩

end ComponentLookup
