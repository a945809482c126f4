import ComponentLookup.Proofs.Json.Update
import ComponentLookup.Walk.Basic
import Mathlib.Logic.Basic
import Mathlib.Tactic.Set
import Mathlib.Tactic.SplitIfs

/-!
# Walks without fuel

The walk of `ComponentLookup.Walk.Basic` takes its fuel from the tree, since a visitor may grow the
parent under it.  A visitor that leaves the parent alone (`Visitor.IsLocal`) cannot, and then the
walk is a plain recursion on the tree as it was before: the *tour*.

* `Tour.node`, `Tour.slots`, `Tour.items` : the tour of a node, of the fields of a parent and of a
  list in one.
* `Tour.inv_node` : the tour keeps what every call of the visitor keeps.
* `Tour.failure_node` : it does not fail if no call of the visitor does.
* `Tour.walk_eq` : with a local visitor, **the walk is the tour**.
* `Tour.failure_walk` : the walk does not fail either; it passes by a root that is to be removed.
-/

namespace ComponentLookup

open Json

variable {σ ε : Type}

/-- The visitor leaves the parent alone, and the node too when the walk descends into it, as long
as the state satisfies an invariant, which every call keeps. -/
structure Visitor.IsLocal (visitor : Visitor σ ε) (Inv : σ → Prop) : Prop where
  edits_eq : ∀ site v s, Inv s → (visitor.enter site v s).edits = []
  node_eq : ∀ site v s, Inv s → (visitor.enter site v s).outcome = .ok .descend →
    (visitor.enter site v s).node = v
  enter : ∀ site v s, Inv s → Inv (visitor.enter site v s).state
  leave : ∀ site v s, Inv s → Inv (visitor.leave site v s)

/-- No call of the visitor fails, as long as the state satisfies an invariant. -/
def Visitor.Answers (visitor : Visitor σ ε) (Inv : σ → Prop) : Prop :=
  ∀ site v s, Inv s → ∃ action, (visitor.enter site v s).outcome = .ok action

namespace Tour

/-! ### The recursion -/

/-- A node after its visit; nothing is left of it if it was removed. -/
structure Visited (σ ε : Type) where
  node? : Option Json
  state : σ
  failure : Option ε

variable (visitor : Visitor σ ε)

mutual

/-- Visits a node and what is below it.  `after` gives its place once it has been visited. -/
def node (before : Site) (after : Json → Site) : Json → σ → Visited σ ε
  | .obj fields, s =>
    let reply := visitor.enter before (.obj fields) s
    match reply.outcome with
    | .error e => ⟨some reply.node, reply.state, some e⟩
    | .ok .remove => ⟨none, reply.state, none⟩
    | .ok .skip =>
      ⟨some reply.node, visitor.leave (after reply.node) reply.node reply.state, none⟩
    | .ok .descend =>
      let walked := slots (.obj fields) fields reply.state
      match walked.failure with
      | some e => ⟨some walked.node, walked.state, some e⟩
      | none => ⟨some walked.node, visitor.leave (after walked.node) walked.node walked.state, none⟩
  | v, s => ⟨some v, s, none⟩

/-- Visits the nodes in the fields of a parent. -/
def slots (host : Json) : List (String × Json) → σ → Walked σ ε
  | [], s => ⟨host, s, none⟩
  | (key, .arr siblings) :: rest, s =>
    if key ≠ "type" ∧ siblings.any isNode then
      let walked := items host key [] siblings s
      match walked.failure with
      | some e => ⟨walked.node, walked.state, some e⟩
      | none => slots walked.node rest walked.state
    else slots host rest s
  | (key, v) :: rest, s =>
    if key ≠ "type" ∧ v.isNode then
      let visited := node (.field host key) (fun w => .field (host.set key w) key) v s
      let host := host.set key (visited.node?.getD .null)
      match visited.failure with
      | some e => ⟨host, visited.state, some e⟩
      | none => slots host rest visited.state
    else slots host rest s

/-- Visits the nodes of a list behind those that are done. -/
def items (host : Json) (key : String) (done : List Json) : List Json → σ → Walked σ ε
  | [], s => ⟨host.set key (.arr done), s, none⟩
  | v :: rest, s =>
    if v.isNode then
      let site w := Site.item (host.set key (.arr (done ++ w :: rest))) key done.length
      let visited := node (site v) site v s
      match visited.failure with
      | some e =>
        ⟨host.set key (.arr (done ++ visited.node?.toList ++ rest)), visited.state, some e⟩
      | none => items host key (done ++ visited.node?.toList) rest visited.state
    else items host key (done ++ [v]) rest s

end

/-! ### What the visitor keeps -/

variable {visitor} {Inv : σ → Prop}

mutual

theorem inv_node (hl : visitor.IsLocal Inv) (before : Site) (after : Json → Site) :
    ∀ (v : Json) (s : σ), Inv s → Inv (node visitor before after v s).state
  | .obj fields, s, hs => by
    have he := hl.enter before (.obj fields) s hs
    have hw := inv_slots hl (.obj fields) fields _ he
    simp only [node]
    split
    · exact he
    · exact he
    · exact hl.leave _ _ _ he
    · split
      · exact hw
      · exact hl.leave _ _ _ hw
  | .null, s, hs | .bool _, s, hs | .int _, s, hs | .float _, s, hs | .str _, s, hs
  | .arr _, s, hs => by simpa [node] using hs

theorem inv_slots (hl : visitor.IsLocal Inv) (host : Json) :
    ∀ (fields : List (String × Json)) (s : σ), Inv s → Inv (slots visitor host fields s).state
  | [], s, hs => by simpa [slots] using hs
  | (key, .arr siblings) :: rest, s, hs => by
    have hw := inv_items hl host key [] siblings s hs
    simp only [slots]
    split
    · split
      · exact hw
      · exact inv_slots hl _ rest _ hw
    · exact inv_slots hl _ rest _ hs
  | (key, .obj fields) :: rest, s, hs => by
    have hv := inv_node hl (.field host key) (fun w => .field (host.set key w) key) (.obj fields) s
      hs
    simp only [slots]
    split
    · split
      · exact hv
      · exact inv_slots hl _ rest _ hv
    · exact inv_slots hl _ rest _ hs
  | (key, .null) :: rest, s, hs | (key, .bool _) :: rest, s, hs | (key, .int _) :: rest, s, hs
  | (key, .float _) :: rest, s, hs | (key, .str _) :: rest, s, hs => by
    simpa [slots, isNode, kind?, get?] using inv_slots hl host rest s hs

theorem inv_items (hl : visitor.IsLocal Inv) (host : Json) (key : String) (done : List Json) :
    ∀ (rest : List Json) (s : σ), Inv s → Inv (items visitor host key done rest s).state
  | [], s, hs => by simpa [items] using hs
  | v :: rest, s, hs => by
    simp only [items]
    split
    · have hv := inv_node hl (.item (host.set key (.arr (done ++ v :: rest))) key done.length)
        (fun w => .item (host.set key (.arr (done ++ w :: rest))) key done.length) v s hs
      split
      · exact hv
      · exact inv_items hl host key _ rest _ hv
    · exact inv_items hl host key _ rest s hs

end

/-! ### Visitors that do not fail -/

mutual

theorem failure_node (hl : visitor.IsLocal Inv) (ha : visitor.Answers Inv) (before : Site)
    (after : Json → Site) :
    ∀ (v : Json) (s : σ), Inv s → (node visitor before after v s).failure = none
  | .obj fields, s, hs => by
    have he := hl.enter before (.obj fields) s hs
    obtain ⟨action, hout⟩ := ha before (.obj fields) s hs
    simp only [node, hout]
    cases action with
    | remove => rfl
    | skip => rfl
    | descend => simp only [failure_slots hl ha (.obj fields) fields _ he]
  | .null, s, hs | .bool _, s, hs | .int _, s, hs | .float _, s, hs | .str _, s, hs
  | .arr _, s, hs => by simp [node]

theorem failure_slots (hl : visitor.IsLocal Inv) (ha : visitor.Answers Inv) (host : Json) :
    ∀ (fields : List (String × Json)) (s : σ), Inv s →
      (slots visitor host fields s).failure = none
  | [], s, hs => by simp [slots]
  | (key, .arr siblings) :: rest, s, hs => by
    have hw := inv_items hl host key [] siblings s hs
    simp only [slots, failure_items hl ha host key [] siblings s hs]
    split
    · exact failure_slots hl ha _ rest _ hw
    · exact failure_slots hl ha _ rest _ hs
  | (key, .obj fields) :: rest, s, hs => by
    have hv := inv_node hl (.field host key) (fun w => .field (host.set key w) key) (.obj fields) s
      hs
    have hnode := failure_node hl ha (.field host key) (fun w => .field (host.set key w) key)
      (.obj fields) s hs
    simp only [slots, hnode]
    split
    · exact failure_slots hl ha _ rest _ hv
    · exact failure_slots hl ha _ rest _ hs
  | (key, .null) :: rest, s, hs | (key, .bool _) :: rest, s, hs | (key, .int _) :: rest, s, hs
  | (key, .float _) :: rest, s, hs | (key, .str _) :: rest, s, hs => by
    simpa [slots, isNode, kind?, get?] using failure_slots hl ha host rest s hs

theorem failure_items (hl : visitor.IsLocal Inv) (ha : visitor.Answers Inv) (host : Json)
    (key : String) (done : List Json) :
    ∀ (rest : List Json) (s : σ), Inv s →
      (items visitor host key done rest s).failure = none
  | [], s, hs => by simp [items]
  | v :: rest, s, hs => by
    simp only [items]
    split
    · have hv := inv_node hl (.item (host.set key (.arr (done ++ v :: rest))) key done.length)
        (fun w => .item (host.set key (.arr (done ++ w :: rest))) key done.length) v s hs
      rw [failure_node hl ha _ _ v s hs]
      exact failure_items hl ha host key _ rest _ hv
    · exact failure_items hl ha host key _ rest s hs

end

/-! ### The slots of a parent -/

/-- A walked node as the parent that the walk of its slots hands on. -/
def hosted (walked : Walked σ ε) : WalkedHost σ ε :=
  ⟨⟨walked.node, []⟩, walked.state, walked.failure⟩

@[simp] theorem store_unassigned (v : Json) (key : String) (w : Json) :
    Host.store ⟨v, []⟩ key w = ⟨v.set key w, []⟩ := by
  simp [Host.store, Host.isAttached]

/-- The test by which `listedSlots` selects the fields that hold nodes. -/
def isSlot (field : String × Json) : Bool := field.1 != "type" && (Slot.of? field.2).isSome

theorem listedSlots_obj (fields : Fields) : listedSlots (.obj fields) = fields.filter isSlot := rfl

theorem isSlot_arr {key : String} {siblings : List Json} :
    isSlot (key, .arr siblings) = true ↔ key ≠ "type" ∧ siblings.any isNode := by
  by_cases h : siblings.any isNode <;> simp [isSlot, Slot.of?, h]

theorem isSlot_obj {key : String} {fields : Fields} :
    isSlot (key, .obj fields) = true ↔ key ≠ "type" ∧ (Json.obj fields).isNode := by
  by_cases h : (Json.obj fields).isNode <;> simp [isSlot, Slot.of?, h]

theorem slots_obj (host : Json) (key : String) (fields : Fields) (rest : List (String × Json))
    (s : σ) :
    slots visitor host ((key, .obj fields) :: rest) s =
      if key ≠ "type" ∧ (Json.obj fields).isNode then
        let visited :=
          node visitor (.field host key) (fun w => .field (host.set key w) key) (.obj fields) s
        let host := host.set key (visited.node?.getD .null)
        match visited.failure with
        | some e => ⟨host, visited.state, some e⟩
        | none => slots visitor host rest visited.state
      else slots visitor host rest s := by
  rw [slots]
  exact fun _ => Json.noConfusion

theorem slots_of_not_isSlot {host : Json} {key : String} {v : Json} {rest : List (String × Json)}
    {s : σ} (h : ¬ isSlot (key, v) = true) :
    slots visitor host ((key, v) :: rest) s = slots visitor host rest s := by
  cases v with
  | arr items => rw [slots, if_neg fun hs => h (isSlot_arr.2 hs)]
  | obj fields => rw [slots_obj, if_neg fun hs => h (isSlot_obj.2 hs)]
  | _ => simp [slots, isNode, kind?, get?]

/-! ### The walk -/

-- The fuel bounds leave one unit for each call: a list or a list of slots calls for its rest, and
-- a node for its fields.
mutual

theorem walkChildren_eq (hl : visitor.IsLocal Inv) :
    ∀ (v : Json) (fields : Fields), v = .obj fields → ∀ (fuel : Nat) (s : σ), Inv s →
      2 * v.size ≤ fuel → walkChildren visitor fuel v s = slots visitor v fields s
  | .obj fields, _, rfl, fuel, s, hs, hf => by
    simp only [Json.size] at hf
    obtain ⟨n, rfl⟩ : ∃ n, fuel = n + 1 := ⟨fuel - 1, by omega⟩
    have := walkSlots_eq hl fields n (.obj fields) s hs (by omega)
    simp only [walkChildren, listedSlots_obj, this, hosted]

theorem walkSlots_eq (hl : visitor.IsLocal Inv) :
    ∀ (fields : List (String × Json)) (fuel : Nat) (host : Json) (s : σ), Inv s →
      2 * sizeFields fields + 1 ≤ fuel →
      walkSlots visitor fuel ⟨host, []⟩ (fields.filter isSlot) s =
        hosted (slots visitor host fields s)
  | [], fuel, host, s, hs, hf => by
    obtain ⟨n, rfl⟩ : ∃ n, fuel = n + 1 := ⟨fuel - 1, by omega⟩
    simp [walkSlots, slots, hosted]
  | (key, .arr siblings) :: rest, fuel, host, s, hs, hf => by
    simp only [sizeFields, Json.size] at hf
    obtain ⟨n, rfl⟩ : ∃ n, fuel = n + 1 := ⟨fuel - 1, by omega⟩
    by_cases hslot : key ≠ "type" ∧ siblings.any isNode
    · have hi := walkItems_eq hl siblings n host key [] s hs (by omega)
      have hw := inv_items hl host key [] siblings s hs
      simp only [List.nil_append, List.length_nil] at hi
      rw [List.filter_cons_of_pos (isSlot_arr.2 hslot), slots, if_pos hslot, walkSlots, hi]
      cases hfail : (items visitor host key [] siblings s).failure with
      | some e => simp [hosted, hfail]
      | none =>
        have := walkSlots_eq hl rest n (items visitor host key [] siblings s).node _ hw (by omega)
        simp only [hosted, hfail] at this ⊢
        exact this
    · rw [List.filter_cons_of_neg (fun h => hslot (isSlot_arr.1 h)), slots, if_neg hslot]
      exact walkSlots_eq hl rest _ _ _ hs (by omega)
  | (key, .obj fields) :: rest, fuel, host, s, hs, hf => by
    simp only [sizeFields, Json.size] at hf
    obtain ⟨n, rfl⟩ : ∃ n, fuel = n + 1 := ⟨fuel - 1, by omega⟩
    by_cases hslot : key ≠ "type" ∧ (Json.obj fields).isNode
    · have hedits := hl.edits_eq (.field host key) (.obj fields) s hs
      have hnode := hl.node_eq (.field host key) (.obj fields) s hs
      have hinv := inv_node hl (.field host key) (fun w => .field (host.set key w) key)
        (.obj fields) s hs
      have henter := hl.enter (.field host key) (.obj fields) s hs
      have hrest := fun host s hs => walkSlots_eq hl rest n host s hs (by omega)
      rw [List.filter_cons_of_pos (isSlot_obj.2 hslot), slots_obj, if_pos hslot, walkSlots]
      -- both sides follow the reply of the visitor
      · simp only [hedits, List.foldl_nil, node] at hinv ⊢
        cases hout : (visitor.enter (.field host key) (.obj fields) s).outcome with
        | error e => simp [hosted]
        | ok action =>
          cases action with
          | remove =>
            simp only [hout] at hinv
            simpa using hrest _ _ hinv
          | skip =>
            simp only [hout] at hinv
            simpa using hrest _ _ hinv
          | descend =>
            have hc := walkChildren_eq hl (.obj fields) fields rfl n _ henter
              (by simp only [Json.size]; omega)
            simp only [hout] at hinv
            simp only [hnode hout, hc]
            cases hfail : (slots visitor (.obj fields) fields
                (visitor.enter (.field host key) (.obj fields) s).state).failure with
            | some e => simp [hosted]
            | none =>
              simp only [hfail] at hinv
              simpa using hrest _ _ hinv
      · exact fun _ => Json.noConfusion
    · rw [List.filter_cons_of_neg (fun h => hslot (isSlot_obj.1 h)), slots_obj, if_neg hslot]
      exact walkSlots_eq hl rest _ _ _ hs (by omega)
  | (key, .null) :: rest, fuel, host, s, hs, hf
  | (key, .bool _) :: rest, fuel, host, s, hs, hf | (key, .int _) :: rest, fuel, host, s, hs, hf
  | (key, .float _) :: rest, fuel, host, s, hs, hf
  | (key, .str _) :: rest, fuel, host, s, hs, hf => by
    have := walkSlots_eq hl rest fuel host s hs (by simp only [sizeFields] at hf; omega)
    simpa [slots, isNode, kind?, get?, Slot.of?, isSlot] using this

theorem walkItems_eq (hl : visitor.IsLocal Inv) :
    ∀ (rest : List Json) (fuel : Nat) (host : Json) (key : String) (done : List Json) (s : σ),
      Inv s → 2 * sizeItems rest + 1 ≤ fuel →
      walkItems visitor fuel ⟨host, []⟩ key (done ++ rest) done.length s =
        hosted (items visitor host key done rest s)
  | [], fuel, host, key, done, s, hs, hf => by
    obtain ⟨n, rfl⟩ : ∃ n, fuel = n + 1 := ⟨fuel - 1, by omega⟩
    simp [walkItems, items, hosted]
  | v :: rest, fuel, host, key, done, s, hs, hf => by
    simp only [sizeItems] at hf
    have hv := one_le_size v
    obtain ⟨n, rfl⟩ : ∃ n, fuel = n + 1 := ⟨fuel - 1, by omega⟩
    have hget : (done ++ v :: rest)[done.length]? = some v := by simp
    have hput : ∀ w, (done ++ v :: rest).set done.length w = done ++ w :: rest := by simp
    have herase : ∀ w, (done ++ w :: rest).eraseIdx done.length = done ++ rest := fun w => by
      rw [List.eraseIdx_append_of_length_le (Nat.le_refl _), Nat.sub_self, List.eraseIdx_cons_zero]
    have hnext := fun done s hs => walkItems_eq hl rest n host key done s hs (by omega)
    -- an item that stays is done from then on
    have hkeep : ∀ w s, Inv s → walkItems visitor n ⟨host, []⟩ key (done ++ w :: rest)
        (done.length + 1) s = hosted (items visitor host key (done ++ [w]) rest s) :=
      fun w s hs => by simpa using hnext (done ++ [w]) s hs
    by_cases hn : v.isNode
    · obtain ⟨fields, rfl⟩ := exists_fields_of_isNode hn
      set site := fun w => Site.item (host.set key (.arr (done ++ w :: rest))) key done.length
      have hedits := hl.edits_eq (site (.obj fields)) (.obj fields) s hs
      have hnode := hl.node_eq (site (.obj fields)) (.obj fields) s hs
      have hinv := inv_node hl (site (.obj fields)) site (.obj fields) s hs
      have henter := hl.enter (site (.obj fields)) (.obj fields) s hs
      simp only [walkItems, items, hget, hn, if_true, store_unassigned]
      change Inv (node visitor (site (.obj fields)) site (.obj fields) s).state at hinv
      simp only [node] at hinv ⊢
      simp only [site] at hedits hnode hinv henter ⊢
      simp only [hedits, List.foldl_nil, hput, herase, Row.parent, Row.putItem, store_unassigned]
      cases hout : (visitor.enter (.item (host.set key (.arr (done ++ .obj fields :: rest))) key
          done.length) (.obj fields) s).outcome with
      | error e => simp [hosted]
      | ok action =>
        cases action with
        | remove =>
          simp only [hout] at hinv
          simpa using hnext done _ hinv
        | skip =>
          simp only [hout] at hinv
          exact hkeep _ _ hinv
        | descend =>
          have hc := walkChildren_eq hl (.obj fields) fields rfl n _ henter (by omega)
          simp only [hout] at hinv
          simp only [hnode hout, hc, hput]
          cases hfail : (slots visitor (.obj fields) fields (visitor.enter
              (.item (host.set key (.arr (done ++ .obj fields :: rest))) key done.length)
              (.obj fields) s).state).failure with
          | some e => simp [hosted]
          | none =>
            simp only [hfail] at hinv
            exact hkeep _ _ hinv
    · simp only [walkItems, items, hget, hn]
      have := hnext (done ++ [v]) s hs
      simpa using this

end

/-- **A walk with a local visitor is a tour.** -/
theorem walk_eq (hl : visitor.IsLocal Inv) {v : Json} (hv : v.isNode = true) {s : σ} (hs : Inv s)
    (hroot : (visitor.enter .root v s).outcome ≠ .ok .remove) :
    walk visitor v s =
      let visited := node visitor .root (fun _ => .root) v s
      ⟨visited.node?.getD v, visited.state, visited.failure⟩ := by
  obtain ⟨fields, rfl⟩ := exists_fields_of_isNode hv
  simp only [walk, node]
  cases hout : (visitor.enter .root (.obj fields) s).outcome with
  | error e => simp
  | ok action =>
    cases action with
    | remove => exact absurd hout hroot
    | skip => simp
    | descend =>
      have hnode := hl.node_eq .root _ s hs hout
      have henter := hl.enter .root (.obj fields) s hs
      have hfuel : 2 * (Json.obj fields).size ≤ walkFuel visitor (.obj fields) :=
        Nat.le_trans (by omega) (Nat.le_mul_of_pos_right _ (Nat.succ_pos _))
      have hc := walkChildren_eq hl (.obj fields) fields rfl _ _ henter hfuel
      dsimp only
      rw [hnode, hc]
      cases hfail : (slots visitor (.obj fields) fields
          (visitor.enter .root (.obj fields) s).state).failure <;> simp

/-- A root that is to be removed is passed by. -/
theorem walk_of_remove {v : Json} {s : σ}
    (hroot : (visitor.enter .root v s).outcome = .ok .remove) :
    walk visitor v s = ⟨(visitor.enter .root v s).node, visitor.leave .root
      (visitor.enter .root v s).node (visitor.enter .root v s).state, none⟩ := by
  simp [walk, hroot]

/-- A walk does not fail if no call of the visitor does. -/
theorem failure_walk (hl : visitor.IsLocal Inv) (ha : visitor.Answers Inv) {v : Json}
    (hv : v.isNode = true) {s : σ} (hs : Inv s) : (walk visitor v s).failure = none := by
  by_cases hroot : (visitor.enter .root v s).outcome = .ok .remove
  · rw [walk_of_remove hroot]
  · rw [walk_eq hl hv hs hroot]
    exact failure_node hl ha .root (fun _ => .root) v s hs

end Tour
end ComponentLookup
