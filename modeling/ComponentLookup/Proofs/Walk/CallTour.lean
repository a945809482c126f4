import ComponentLookup.Proofs.Walk.Segment

/-!
# The calls of a tour

The tour of `ComponentLookup.Proofs.Walk.Tour` goes along with the calls that the visitor writes
down.  Each of its three functions makes the calls about some nodes and no others (`Wrote`), and
leaves what the removals among them leave: the tour of a node (`exists_calls_node`), of the fields
that are still to come (`exists_calls_slots`), and of a list that is gone through up to some item
(`exists_calls_items`).

While a list is gone through, its parent may hold an older list in the field, and the items behind
those that are done stand at positions that are no longer the original ones.  `Halfway` is the
invariant: the items that are done are what the removals have left of them.
-/

namespace ComponentLookup

open Json Call

variable {σ ε : Type}

/-! ### Removals in one field -/

section

variable {tree v w : Json} {key : String} {before calls : List (Path × Call ε)}

theorem nodup_of_distinctKeys (hd : tree.DistinctKeys) :
    ∀ fields, tree = .obj fields → (fields.map Prod.fst).Nodup := by
  rintro fields rfl
  exact hd.1

/-- Calls about what is inside a field change only this field. -/
theorem remove_append_eq_set (hd : tree.DistinctKeys) (hv : tree.get? key = some v)
    (hcalls : ∀ call ∈ calls, [.field key] <+: call.1) :
    tree.remove (removed (before ++ calls)) = (tree.remove (removed before)).set key
      ((left? (inside (removed (before ++ calls)) [.field key]) v).getD .null) := by
  refine remove_eq_set (nodup_of_distinctKeys hd) hv fun key' hne => ?_
  refine inside_removed_append_left fun call hcall hpre => ?_
  obtain ⟨step, rest, heq⟩ : ∃ step rest, call.1 = step :: rest := by
    obtain ⟨rest, heq⟩ := hcalls call hcall
    exact ⟨_, rest, heq.symm⟩
  have hkey := hcalls call hcall
  rw [heq, List.cons_prefix_cons] at hpre hkey
  exact hne (Step.field.inj (hpre.1.trans hkey.1.symm))

/-- What is left of the value in a field after the calls about what is inside it. -/
theorem remove_append_under (hd : tree.DistinctKeys) (hv : tree.get? key = some v)
    (hfresh : ∀ call ∈ before, ¬ [.field key] <+: call.1) (hcalls : ∀ call ∈ calls, call.1 ≠ []) :
    tree.remove (removed (before ++ under [.field key] calls)) =
      (tree.remove (removed before)).set key (v.remove (removed calls)) := by
  have hinside : ∀ call ∈ under [.field key] calls, [.field key] <+: call.1 :=
    List.forall_mem_map.2 fun call _ => List.prefix_append _ _
  rw [remove_append_eq_set hd hv hinside, inside_removed_append_right hfresh,
    inside_removed_under, left?, removed_eq_false hcalls]
  rfl

theorem stands_field {now parent : Json} (h : now = parent) (key : String)
    (gone : Path → Bool) : (Site.field parent key).Stands now (moved gone [.field key]) :=
  @Site.Stands.field now [] parent key (congrArg some h)

/-- A field that no call has been about. -/
theorem untouched_field (hv : tree.get? key = some v)
    (hfresh : ∀ call ∈ before, ¬ [.field key] <+: call.1) :
    Untouched tree before [.field key] v where
  at?_eq := (at?_singleton key tree).trans hv
  way p hp hpre := by
    obtain rfl | ⟨p, rfl, hnil⟩ := List.prefix_cons_iff.1 hpre
    · exact absurd rfl hp
    · rw [List.prefix_nil.1 hnil]
      exact removed_eq_false fun call hcall heq => hfresh call hcall (heq ▸ List.prefix_rfl)
  fresh := hfresh

end

/-! ### Lists half gone through -/

/-- A list in a field is gone through, and its first items are done. -/
structure Halfway (tree : Json) (key : String) (before : List (Path × Call ε))
    (earlier rest : List Json) (host : Json) (done : List Json) : Prop where
  get?_eq : tree.get? key = some (.arr (earlier ++ rest))
  done_eq : done = removeItems (inside (removed before) [.field key]) 0 earlier
  /-- The parent may still hold an old list, but otherwise it is what is there now. -/
  set_host : ∀ w, host.set key w = (tree.remove (removed before)).set key w
  stays : removed before [.field key] = false
  fresh : ∀ call ∈ before, ∀ i, earlier.length ≤ i → ¬ [.field key, .item i] <+: call.1

namespace Halfway

variable {tree v host : Json} {key : String} {before calls : List (Path × Call ε)}
  {earlier rest done : List Json} {path : Path} {i j : Nat}

theorem item_eq (h : [.field key, .item i] <+: path) (h' : [.field key, .item j] <+: path) :
    i = j := by
  obtain ⟨rest, rfl⟩ := h
  simp only [List.cons_append, List.cons_prefix_cons, Step.item.injEq] at h'
  exact h'.2.1.symm

/-- None of the items is done yet. -/
theorem start (hget : tree.get? key = some (.arr rest))
    (hfresh : ∀ call ∈ before, ¬ [.field key] <+: call.1) :
    Halfway tree key before [] rest (tree.remove (removed before)) [] where
  get?_eq := hget
  done_eq := rfl
  set_host _ := rfl
  stays := removed_eq_false fun call hcall heq => hfresh call hcall (heq ▸ List.prefix_rfl)
  fresh call hcall i _ hpre := hfresh call hcall
    ((List.prefix_append [Step.field key] [Step.item i]).trans hpre)

theorem rest_eq (h : Halfway tree key before earlier rest host done) :
    removeItems (inside (removed before) [.field key]) earlier.length rest = rest :=
  removeItems_eq_self fun i hi => by
    rw [inside_inside]
    exact inside_removed_of_fresh fun call hcall => h.fresh call hcall i hi

/-- With the present items in the field, the parent is what is there now. -/
theorem now_eq (h : Halfway tree key before earlier rest host done) :
    host.set key (.arr (done ++ rest)) = tree.remove (removed before) := by
  have hitems : left? (inside (removed before) [.field key]) (.arr (earlier ++ rest)) =
      some (.arr (done ++ rest)) := by
    have hself : inside (removed before) [.field key] [] = false := h.stays
    rw [left?, hself, remove, removeItems_append, Nat.zero_add, h.rest_eq, h.done_eq]
    rfl
  rw [h.set_host]
  refine set_eq_self ?_
  rw [get?_remove, h.get?_eq, Option.map_some, hitems, Option.getD_some]

theorem untouched (h : Halfway tree key before earlier (v :: rest) host done) :
    Untouched tree before [.field key, .item earlier.length] v where
  at?_eq := by
    rw [at?_field, h.get?_eq, Option.bind_some, at?_item_singleton, List.getElem?_append_right
      (Nat.le_refl _), Nat.sub_self]
    rfl
  way p hp hpre := by
    obtain rfl | ⟨p, rfl, hp'⟩ := List.prefix_cons_iff.1 hpre
    · exact absurd rfl hp
    obtain rfl | ⟨p, rfl, hnil⟩ := List.prefix_cons_iff.1 hp'
    · exact h.stays
    · rw [List.prefix_nil.1 hnil]
      exact removed_eq_false fun call hcall heq =>
        h.fresh call hcall _ (Nat.le_refl _) (heq ▸ List.prefix_rfl)
  fresh call hcall := h.fresh call hcall _ (Nat.le_refl _)

/-- The next item, after the calls about it. -/
theorem next (h : Halfway tree key before earlier (v :: rest) host done) (hd : tree.DistinctKeys)
    (hcalls : ∀ call ∈ calls, [.field key, .item earlier.length] <+: call.1) :
    Halfway tree key (before ++ calls) (earlier ++ [v]) rest host
      (done ++ (left? (inside (removed calls) [.field key, .item earlier.length]) v).toList) where
  get?_eq := by rw [h.get?_eq, List.append_assoc, List.singleton_append]
  done_eq := by
    have hearlier : removeItems (inside (removed (before ++ calls)) [.field key]) 0 earlier =
        removeItems (inside (removed before) [.field key]) 0 earlier :=
      removeItems_congr fun i _ hi => by
        rw [inside_inside, inside_inside]
        refine inside_removed_append_left fun call hcall hpre => ?_
        have heq := item_eq hpre (hcalls call hcall)
        omega
    have hitem : inside (inside (removed (before ++ calls)) [.field key]) [.item earlier.length] =
        inside (removed calls) [.field key, .item earlier.length] := by
      rw [inside_inside]
      exact inside_removed_append_right fun call hcall =>
        h.fresh call hcall _ (Nat.le_refl _)
    rw [removeItems_append, Nat.zero_add, removeItems_cons, hearlier, ← h.done_eq, hitem,
      removeItems, List.append_nil]
  set_host w := by
    rw [h.set_host, remove_append_eq_set hd h.get?_eq fun call hcall =>
      (List.prefix_append [Step.field key] [Step.item earlier.length]).trans (hcalls call hcall),
      set_set]
  stays := by
    rw [removed_append, h.stays, Bool.false_or]
    refine removed_eq_false fun call hcall heq => ?_
    have hle := (heq ▸ hcalls call hcall).length_le
    simp at hle
  fresh call hcall i hi hpre := by
    rw [List.length_append, List.length_singleton] at hi
    rcases List.mem_append.1 hcall with hcall | hcall
    · exact h.fresh call hcall i (Nat.le_of_succ_le hi) hpre
    · have heq := item_eq hpre (hcalls call hcall)
      omega

/-- The next item, which is no node. -/
theorem pass (h : Halfway tree key before earlier (v :: rest) host done)
    (hd : tree.DistinctKeys) :
    Halfway tree key before (earlier ++ [v]) rest host (done ++ [v]) := by
  have hnext := h.next hd (List.forall_mem_nil _)
  have hself : left? (inside (removed ([] : List (Path × Call ε)))
      [.field key, .item earlier.length]) v = some v := congrArg some (remove_nowhere v)
  rwa [List.append_nil, hself] at hnext

/-- An item that is not done yet stands behind those that are. -/
theorem moved_eq (h : Halfway tree key before earlier rest host done)
    (hcalls : ∀ call ∈ calls, [.field key, .item earlier.length] <+: call.1) :
    moved (removed (before ++ calls)) [.field key, .item earlier.length] =
      [.field key, .item done.length] := by
  have hcount : (List.range earlier.length).countP
        (fun j => inside (removed (before ++ calls)) [.field key] [.item j]) =
      (List.range earlier.length).countP
        (fun j => inside (removed before) [.field key] [.item j]) := by
    refine List.countP_congr fun j hj => ?_
    have hsame : inside (removed (before ++ calls)) [.field key, .item j] =
        inside (removed before) [.field key, .item j] :=
      inside_removed_append_left fun call hcall hpre => by
        have heq := item_eq hpre (hcalls call hcall)
        have hlt := List.mem_range.1 hj
        omega
    exact iff_of_eq (congrArg (· = true) (congrFun hsame []))
  rw [h.done_eq, length_removeItems, ← hcount]
  rfl

/-- The next item is shown with the present list. -/
theorem stands (h : Halfway tree key before earlier (v :: rest) host done) :
    (Site.item (host.set key (.arr (done ++ v :: rest))) key done.length).Stands
      (tree.remove (removed before))
      (moved (removed before) [.field key, .item earlier.length]) := by
  have hmoved := h.moved_eq (List.forall_mem_nil _)
  rw [List.append_nil] at hmoved
  rw [hmoved, h.now_eq]
  exact @Site.Stands.item _ [] _ _ _ rfl

/-- After the calls about what is inside it, it is shown at the same position. -/
theorem stands_after (h : Halfway tree key before earlier (v :: rest) host done)
    (hd : tree.DistinctKeys) (hcalls : ∀ call ∈ calls, call.1 ≠ []) :
    let path := [.field key, .item earlier.length]
    (Site.item (host.set key (.arr (done ++ v.remove (removed calls) :: rest))) key
      done.length).Stands (tree.remove (removed (before ++ under path calls)))
      (moved (removed (before ++ under path calls)) path) := by
  intro path
  have hinside : ∀ call ∈ under path calls, path <+: call.1 :=
    List.forall_mem_map.2 fun call _ => List.prefix_append _ _
  have hleft : left? (inside (removed (under path calls)) path) v =
      some (v.remove (removed calls)) := by
    rw [inside_removed_under, left?, removed_eq_false hcalls]
    rfl
  have hnow := (h.next hd hinside).now_eq
  rw [hleft, Option.toList_some, List.append_assoc, List.singleton_append] at hnow
  rw [h.moved_eq hinside, hnow]
  exact @Site.Stands.item _ [] _ _ _ rfl

end Halfway

/-! ### Fields one after another -/

section

variable {v : Json} {key : String} {done rest : Fields} {before calls : List (Path × Call ε)}

/-- The nodes that stand in some fields, with their paths. -/
def nodesInFields (fields : Fields) : List (Path × Json) :=
  fields.flatMap fun field => nodesInField field.1 field.2

theorem ne_of_mem_rest (hn : ((done ++ (key, v) :: rest).map Prod.fst).Nodup) :
    ∀ field ∈ rest, field.1 ≠ key := by
  intro field hf heq
  rw [List.map_append, List.map_cons] at hn
  exact (List.nodup_cons.1 hn.of_append_right).1 (List.mem_map.2 ⟨field, hf, heq⟩)

theorem obj_append_cons {tree : Json} (h : tree = .obj (done ++ (key, v) :: rest)) :
    tree = .obj ((done ++ [(key, v)]) ++ rest) := by
  rw [h, List.append_assoc, List.singleton_append]

theorem apart_of_ne (hne : ∀ field ∈ rest, field.1 ≠ key) :
    ∀ node ∈ nodesInField key v, ∀ node' ∈ nodesInFields rest, ∀ path,
      node.1 <+: path → ¬ node'.1 <+: path := by
  intro node hnode node' hnode' path hpre hpre'
  obtain ⟨field, hf, hnode'⟩ := List.mem_flatMap.1 hnode'
  obtain ⟨path, rfl⟩ := (prefix_of_mem_nodesInField hnode).trans hpre
  have hkey := (prefix_of_mem_nodesInField hnode').trans hpre'
  rw [List.cons_append, List.cons_prefix_cons] at hkey
  exact hne field hf (Step.field.inj hkey.1)

theorem get?_of_append {tree : Json} (hd : tree.DistinctKeys)
    (h : tree = .obj (done ++ (key, v) :: rest)) : tree.get? key = some v := by
  subst h
  exact Fields.get?_of_mem hd.1 (List.mem_append_right _ List.mem_cons_self)

/-- Calls about what is in a field are none about other fields. -/
theorem fresh_append (hne : ∀ field ∈ rest, field.1 ≠ key)
    (hfresh : ∀ call ∈ before, ∀ field ∈ (key, v) :: rest, ¬ [.field field.1] <+: call.1)
    (hcalls : ∀ call ∈ calls, [.field key] <+: call.1) :
    ∀ call ∈ before ++ calls, ∀ field ∈ rest, ¬ [.field field.1] <+: call.1 := by
  intro call hcall field hf hpre
  rcases List.mem_append.1 hcall with hcall | hcall
  · exact hfresh call hcall field (List.mem_cons_of_mem _ hf) hpre
  · obtain ⟨path, heq⟩ := hcalls call hcall
    rw [← heq, List.cons_append, List.cons_prefix_cons] at hpre
    exact hne field hf (Step.field.inj hpre.1)

theorem ne_type_of_get? {tree : Json} (hnode : tree.isNode = true) (hv : tree.get? key = some v)
    (htext : v.text? = none) : key ≠ "type" := by
  rintro rfl
  rw [isNode, kind?, hv, Option.bind_some, htext] at hnode
  cases hnode

theorem nodesInItems_eq_nil {items : List Json} (h : ¬ items.any isNode = true) (index : Nat) :
    nodesInItems key index items = [] := by
  induction items generalizing index with
  | nil => rfl
  | cons v rest ih =>
    rw [List.any_cons, Bool.or_eq_true, not_or] at h
    rw [nodesInItems, if_neg h.1, ih h.2]

/-- A field that is no slot holds no nodes. -/
theorem nodesInField_eq_nil (hkey : key ≠ "type") (h : ¬ Tour.isSlot (key, v) = true) :
    nodesInField key v = [] := by
  cases v with
  | arr items => exact nodesInItems_eq_nil (fun hany => h (Tour.isSlot_arr.2 ⟨hkey, hany⟩)) 0
  | obj fields => exact if_neg fun hnode => h (Tour.isSlot_obj.2 ⟨hkey, hnode⟩)
  | _ => rfl

end

/-! ### The tour -/

variable {visitor : Visitor σ ε} {Inv : σ → Prop}

/-- The calls that a visitor has written down during some part of a walk. -/
structure Wrote (tree : Json) (before : List (Path × Call ε)) (nodes : List (Path × Json))
    (s s' : σ × List (Call ε)) (calls : List (Path × Call ε)) : Prop where
  log_eq : s'.2 = s.2 ++ calls.map Prod.snd
  segment : Segment tree before nodes calls

namespace Wrote

variable {tree : Json} {key : String} {before calls calls' : List (Path × Call ε)}
  {nodes nodes' : List (Path × Json)} {s s₁ s₂ : σ × List (Call ε)}

theorem append (h : Wrote tree before nodes s s₁ calls)
    (h' : Wrote tree (before ++ calls) nodes' s₁ s₂ calls')
    (hapart : ∀ node ∈ nodes, ∀ node' ∈ nodes', ∀ path, node.1 <+: path → ¬ node'.1 <+: path) :
    Wrote tree before (nodes ++ nodes') s s₂ (calls ++ calls') where
  log_eq := by rw [h'.log_eq, h.log_eq, List.map_append, List.append_assoc]
  segment := h.segment.append h'.segment hapart

theorem prefix_of_nodesInField {v : Json} (h : Wrote tree before (nodesInField key v) s s₁ calls) :
    ∀ call ∈ calls, [.field key] <+: call.1 := fun call hcall => by
  obtain ⟨node, hnode, hpre⟩ := h.segment.inside call hcall
  exact (prefix_of_mem_nodesInField hnode).trans hpre

end Wrote

/-- A node that stays, after the calls about what is below it. -/
theorem exists_calls_of_stays {u tree : Json} {before inner : List (Path × Call ε)} {path : Path}
    {site : Site} {after : Json → Site} {action : Action} {s : σ × List (Call ε)}
    {visited : Tour.Visited (σ × List (Call ε)) ε} (hun : Untouched tree before path u)
    (hu : u.isNode = true) (hd : u.DistinctKeys) (hroot : action = .remove → site = .root)
    (hinner : Segment u [] (visitedChildren action u) inner)
    (hsite : site.Stands (tree.remove (removed before)) (moved (removed before) path))
    (hsame : ∀ w, (after w).key? = site.key? ∧ (after w).index? = site.index?)
    (hafter : (after (u.remove (removed inner))).Stands
      (tree.remove (removed (before ++ under path inner)))
      (moved (removed (before ++ under path inner)) path))
    (hnode : visited.node? = some (u.remove (removed inner)))
    (hlog : visited.state.2 = s.2 ++ .enter site u (.ok action) :: (inner.map Prod.snd ++
      [.leave (after (u.remove (removed inner))) (u.remove (removed inner))])) :
    ∃ calls, Wrote tree before [(path, u)] s visited.state calls ∧
      visited.node? = left? (inside (removed calls) path) u := by
  refine ⟨_, ⟨?_, .stays hun hu hd hroot hinner hsite (hsame _).1 (hsame _).2 hafter⟩, ?_⟩
  · rw [hlog, List.map_cons, List.map_append, map_snd_under]
    rfl
  · have hremoved : inside (removed ((path, .enter site u (.ok action)) :: (under path inner ++
        [(path, .leave (after (u.remove (removed inner))) (u.remove (removed inner)))]))) path =
        removed inner := by
      rw [← List.nil_append (_ :: _), removed_append_cons (removes_eq_false hroot),
        List.nil_append, removed_append_cons rfl, List.append_nil, inside_removed_under]
    rw [hnode, hremoved, left?, removed_eq_false hinner.ne_nil]
    rfl

-- The three statements follow the three functions of the tour.  A node starts afresh: what is below
-- it is a tree of its own, without calls so far, and its calls are then moved under its path.
mutual

/-- **The tour of a node.**  What is left of it is what the removals inside it leave, if it is not
removed itself. -/
theorem exists_calls_node (h : visitor.LooksOn Inv) :
    ∀ (u : Json) (site : Site) (after : Json → Site) {tree : Json}
      {before : List (Path × Call ε)} {path : Path} {s : σ × List (Call ε)}, Inv s.1 →
      Untouched tree before path u → u.isNode = true → u.DistinctKeys →
      ((visitor.enter site u s.1).outcome = .ok .remove → site ≠ .root) →
      site.Stands (tree.remove (removed before)) (moved (removed before) path) →
      (∀ w, (after w).key? = site.key? ∧ (after w).index? = site.index?) →
      (∀ inner : List (Path × Call ε), (∀ call ∈ inner, call.1 ≠ []) →
        (after (u.remove (removed inner))).Stands
          (tree.remove (removed (before ++ under path inner)))
          (moved (removed (before ++ under path inner)) path)) →
      ∃ calls, Wrote tree before [(path, u)] s
          (Tour.node visitor.recorded site after u s).state calls ∧
        (Tour.node visitor.recorded site after u s).node? =
          left? (inside (removed calls) path) u
  | .obj fields, site, after, tree, before, path, s, hs, hun, hu, hd, hroot, hsite, hsame,
    hafter => by
    obtain ⟨action, hout⟩ := h.answers site (.obj fields) s.1 hs
    have hkeep := h.node_eq site (.obj fields) s.1 hs
    have henter := h.enter site (.obj fields) s.1 hs
    cases action with
    | remove =>
      have hne := hroot hout
      refine ⟨[(path, .enter site (.obj fields) (.ok .remove))],
        ⟨?_, .removed hun hu hd hne hsite⟩, ?_⟩
      · simp only [Tour.node, Visitor.enter_recorded, hout]
        rfl
      · have hgone : removed [(path, (Call.enter site (.obj fields) (.ok .remove) : Call ε))]
            (path ++ []) = true := by
          rw [List.append_nil, removed_cons_self hne]
        simp only [Tour.node, Visitor.enter_recorded, hout, left?, inside, hgone, if_true]
    | skip =>
      have hinner : Segment (.obj fields) [] (visitedChildren .skip (.obj fields))
          ([] : List (Path × Call ε)) := .nil _ []
      have hself := remove_removed_nil (ε := ε) (.obj fields)
      refine exists_calls_of_stays hun hu hd Action.noConfusion hinner hsite hsame
        (hafter [] (List.forall_mem_nil _)) ?_ ?_
      · simp only [Tour.node, Visitor.enter_recorded, hout, hkeep, hself]
      · simp only [Tour.node, Visitor.enter_recorded, Visitor.leave_recorded, hout, hkeep, hself,
          List.append_assoc]
        rfl
    | descend =>
      have hout' : (visitor.recorded.enter site (.obj fields) s).outcome = .ok .descend := hout
      have hs' : Inv (visitor.recorded.enter site (.obj fields) s).state.1 := henter
      have hfail := Tour.failure_slots h.recorded.isLocal h.recorded.answers (.obj fields) fields
        (visitor.recorded.enter site (.obj fields) s).state hs'
      have hstart : Json.obj fields = .obj ([] ++ fields) := rfl
      obtain ⟨inner, ⟨hlog, hinner⟩, hnode⟩ := exists_calls_slots h fields [] hs' hstart hu hd
        (List.forall_mem_nil _)
      have hself := remove_removed_nil (ε := ε) (.obj fields)
      rw [hself, List.nil_append] at hnode
      rw [hself] at hlog
      have hinner' : Segment (.obj fields) [] (visitedChildren .descend (.obj fields)) inner :=
        hinner
      refine exists_calls_of_stays hun hu hd Action.noConfusion hinner' hsite hsame
        (hafter inner hinner'.ne_nil) ?_ ?_
      · simp only [Tour.node, hout', hfail, hnode]
      · simp only [Tour.node, hout', hfail, hnode, Visitor.leave_recorded, hlog]
        simp only [Visitor.enter_recorded, hout, List.append_assoc]
        rfl
  | .null, _, _, _, _, _, _, _, _, hu, _, _, _, _, _ => by cases hu
  | .bool _, _, _, _, _, _, _, _, _, hu, _, _, _, _, _ => by cases hu
  | .int _, _, _, _, _, _, _, _, _, hu, _, _, _, _, _ => by cases hu
  | .float _, _, _, _, _, _, _, _, _, hu, _, _, _, _, _ => by cases hu
  | .str _, _, _, _, _, _, _, _, _, hu, _, _, _, _, _ => by cases hu
  | .arr _, _, _, _, _, _, _, _, _, hu, _, _, _, _, _ => by cases hu

/-- **The tour of the fields to come.**  The parent stands without what has been removed in the
fields that are done. -/
theorem exists_calls_slots (h : visitor.LooksOn Inv) :
    ∀ (rest done : Fields) {tree : Json} {before : List (Path × Call ε)}
      {s : σ × List (Call ε)}, Inv s.1 → tree = .obj (done ++ rest) → tree.isNode = true →
      tree.DistinctKeys → (∀ call ∈ before, ∀ field ∈ rest, ¬ [.field field.1] <+: call.1) →
      ∃ calls, Wrote tree before (nodesInFields rest) s
          (Tour.slots visitor.recorded (tree.remove (removed before)) rest s).state calls ∧
        (Tour.slots visitor.recorded (tree.remove (removed before)) rest s).node =
          tree.remove (removed (before ++ calls))
  | [], done, tree, before, s, hs, htree, hnode, hd, hfresh => by
    rw [Tour.slots]
    exact ⟨[], ⟨(List.append_nil _).symm, .nil tree before⟩, by rw [List.append_nil]⟩
  | (key, .arr siblings) :: rest, done, tree, before, s, hs, htree, hnode, hd, hfresh => by
    have hne := ne_of_mem_rest (nodup_of_distinctKeys hd _ htree)
    have hget := get?_of_append hd htree
    have hkey : key ≠ "type" := ne_type_of_get? hnode hget rfl
    by_cases hslot : Tour.isSlot (key, .arr siblings) = true
    · have hs' := Tour.inv_items h.recorded.isLocal (tree.remove (removed before)) key [] siblings
        s hs
      have hfail := Tour.failure_items h.recorded.isLocal h.recorded.answers
        (tree.remove (removed before)) key [] siblings s hs
      obtain ⟨calls, hwrote, hitems⟩ := exists_calls_items h siblings hs (Halfway.start hget
        fun call hcall => hfresh call hcall _ List.mem_cons_self) hd
        (distinctKeysItems_iff.1 (hd.get? hget))
      have hfield : Wrote tree before (nodesInField key (.arr siblings)) s (Tour.items
        visitor.recorded (tree.remove (removed before)) key [] siblings s).state calls := hwrote
      obtain ⟨calls', hwrote', hrest⟩ := exists_calls_slots h rest _ hs' (obj_append_cons htree)
        hnode hd (fresh_append hne hfresh hfield.prefix_of_nodesInField)
      rw [Tour.slots, if_pos (Tour.isSlot_arr.1 hslot)]
      simp only [hfail, hitems]
      exact ⟨calls ++ calls', hfield.append hwrote' (apart_of_ne hne),
        by rw [hrest, List.append_assoc]⟩
    · have hrest := exists_calls_slots h rest _ hs (obj_append_cons htree) hnode hd
        fun call hcall field hf => hfresh call hcall field (List.mem_cons_of_mem _ hf)
      rw [Tour.slots_of_not_isSlot hslot, nodesInFields, List.flatMap_cons,
        nodesInField_eq_nil hkey hslot, List.nil_append]
      exact hrest
  | (key, .obj fields) :: rest, done, tree, before, s, hs, htree, hnode, hd, hfresh => by
    have hne := ne_of_mem_rest (nodup_of_distinctKeys hd _ htree)
    have hget := get?_of_append hd htree
    have hkey : key ≠ "type" := ne_type_of_get? hnode hget rfl
    by_cases hslot : Tour.isSlot (key, .obj fields) = true
    · obtain ⟨-, hu⟩ := Tour.isSlot_obj.1 hslot
      have hfresh' : ∀ call ∈ before, ¬ [.field key] <+: call.1 := fun call hcall =>
        hfresh call hcall _ List.mem_cons_self
      set host := tree.remove (removed before) with hhost
      have hs' := Tour.inv_node h.recorded.isLocal (.field host key)
        (fun w => .field (host.set key w) key) (.obj fields) s hs
      have hfail := Tour.failure_node h.recorded.isLocal h.recorded.answers (.field host key)
        (fun w => .field (host.set key w) key) (.obj fields) s hs
      obtain ⟨calls, hwrote, hleft⟩ := exists_calls_node h (.obj fields) (.field host key)
        (fun w => .field (host.set key w) key) hs (untouched_field hget hfresh') hu (hd.get? hget)
        (fun _ => Site.noConfusion) (stands_field hhost.symm key _) (fun w => ⟨rfl, rfl⟩)
        fun inner hinner => stands_field (remove_append_under hd hget hfresh' hinner) key _
      have hfield : Wrote tree before (nodesInField key (.obj fields)) s
          (Tour.node visitor.recorded (.field host key) (fun w => .field (host.set key w) key)
            (.obj fields) s).state calls := by
        have hself : nodesInField key (.obj fields) = [([.field key], .obj fields)] := if_pos hu
        rw [hself]
        exact hwrote
      have hafter : host.set key ((left? (inside (removed calls) [.field key])
          (.obj fields)).getD .null) = tree.remove (removed (before ++ calls)) := by
        rw [remove_append_eq_set hd hget hfield.prefix_of_nodesInField,
          inside_removed_append_right hfresh']
      obtain ⟨calls', hwrote', hrest⟩ := exists_calls_slots h rest _ hs' (obj_append_cons htree)
        hnode hd (fresh_append hne hfresh hfield.prefix_of_nodesInField)
      rw [Tour.slots_obj, if_pos (Tour.isSlot_obj.1 hslot)]
      simp only [hfail, hleft, hafter]
      exact ⟨calls ++ calls', hfield.append hwrote' (apart_of_ne hne),
        by rw [hrest, List.append_assoc]⟩
    · have hrest := exists_calls_slots h rest _ hs (obj_append_cons htree) hnode hd
        fun call hcall field hf => hfresh call hcall field (List.mem_cons_of_mem _ hf)
      rw [Tour.slots_of_not_isSlot hslot, nodesInFields, List.flatMap_cons,
        nodesInField_eq_nil hkey hslot, List.nil_append]
      exact hrest
  | (key, .null) :: rest, done, tree, before, s, hs, htree, hnode, hd, hfresh
  | (key, .bool _) :: rest, done, tree, before, s, hs, htree, hnode, hd, hfresh
  | (key, .int _) :: rest, done, tree, before, s, hs, htree, hnode, hd, hfresh
  | (key, .float _) :: rest, done, tree, before, s, hs, htree, hnode, hd, hfresh
  | (key, .str _) :: rest, done, tree, before, s, hs, htree, hnode, hd, hfresh => by
    have hrest := exists_calls_slots h rest _ hs (obj_append_cons htree) hnode hd
      fun call hcall field hf => hfresh call hcall field (List.mem_cons_of_mem _ hf)
    rw [Tour.slots_of_not_isSlot (by simp [Tour.isSlot, Slot.of?, isNode, kind?, get?])]
    exact hrest

/-- **The tour of the rest of a list**, whose first items are done. -/
theorem exists_calls_items (h : visitor.LooksOn Inv) :
    ∀ (rest : List Json) {tree : Json} {key : String} {before : List (Path × Call ε)}
      {earlier : List Json} {host : Json} {done : List Json} {s : σ × List (Call ε)}, Inv s.1 →
      Halfway tree key before earlier rest host done → tree.DistinctKeys →
      (∀ v ∈ rest, v.DistinctKeys) →
      ∃ calls, Wrote tree before (nodesInItems key earlier.length rest) s
          (Tour.items visitor.recorded host key done rest s).state calls ∧
        (Tour.items visitor.recorded host key done rest s).node =
          tree.remove (removed (before ++ calls))
  | [], tree, key, before, earlier, host, done, s, hs, hhalf, hd, hrest => by
    have hnow := hhalf.now_eq
    rw [List.append_nil] at hnow
    rw [Tour.items]
    exact ⟨[], ⟨(List.append_nil _).symm, .nil tree before⟩, by rw [List.append_nil]; exact hnow⟩
  | v :: rest, tree, key, before, earlier, host, done, s, hs, hhalf, hd, hrest => by
    obtain ⟨hv, hrest⟩ := List.forall_mem_cons.1 hrest
    by_cases hnode : v.isNode = true
    · set site := fun w => Site.item (host.set key (.arr (done ++ w :: rest))) key done.length
      have hs' := Tour.inv_node h.recorded.isLocal (site v) site v s hs
      have hfail := Tour.failure_node h.recorded.isLocal h.recorded.answers (site v) site v s hs
      obtain ⟨calls, hwrote, hleft⟩ := exists_calls_node h v (site v) site hs hhalf.untouched hnode
        hv (fun _ => Site.noConfusion) hhalf.stands (fun w => ⟨rfl, rfl⟩)
        fun inner hinner => hhalf.stands_after hd hinner
      have hcalls : ∀ call ∈ calls, [.field key, .item earlier.length] <+: call.1 :=
        fun call hcall => by
          obtain ⟨node, hnode, hpre⟩ := hwrote.segment.inside call hcall
          rwa [List.mem_singleton.1 hnode] at hpre
      obtain ⟨calls', hwrote', hrest'⟩ := exists_calls_items h rest hs' (hhalf.next hd hcalls) hd
        hrest
      rw [List.length_append, List.length_singleton] at hwrote'
      have hstep : Tour.items visitor.recorded host key done (v :: rest) s =
          Tour.items visitor.recorded host key
            (done ++ (Tour.node visitor.recorded (site v) site v s).node?.toList) rest
            (Tour.node visitor.recorded (site v) site v s).state := by
        simp only [site] at hfail ⊢
        simp only [Tour.items, if_pos hnode, hfail]
      rw [hstep, nodesInItems, if_pos hnode, hleft]
      refine ⟨calls ++ calls', hwrote.append hwrote' fun node hnode node' hnode' path hpre hpre' =>
        ?_, by rw [hrest', List.append_assoc]⟩
      cases List.mem_singleton.1 hnode
      obtain ⟨i, -, -, heq⟩ := mem_nodesInItems hnode'
      have hindex := Halfway.item_eq hpre (heq ▸ hpre')
      omega
    · have hnext := exists_calls_items h rest hs (hhalf.pass hd) hd hrest
      rw [Tour.items, if_neg hnode, nodesInItems, if_neg hnode]
      rwa [List.length_append, List.length_singleton] at hnext

end

end ComponentLookup
