import ComponentLookup.Proofs.Walk.CallTour
import ComponentLookup.Proofs.Walk.Prune

/-!
# The sequence of calls

A visitor that looks on, whatever it keeps in its state, is shown the nodes of a tree in an order
that its answers alone fix.  `CallSequence` says what the calls of a walk are like when each one is
given the path of its node in the tree as it was:

* a node is entered once, in the order of the tree, and just if the visitor has descended into all
  those above it;
* a call shows the node as it is at that time, in the place where it stands in the tree at that
  time, which is not the original one behind removed items (`Json.moved`);
* the calls are well bracketed, and just the nodes that stay are left again.

`callSequence_walk` says that **every walk is such a sequence**, and that the tree is left without
the nodes that were removed.
-/

namespace ComponentLookup

open Json Call

variable {σ ε : Type} {visitor : Visitor σ ε} {Inv : σ → Prop}

/-- What a visitor that looks on is shown during a walk, call by call.  Each call comes with the
path of its node in the tree as it was before the walk. -/
structure CallSequence (tree : Json) (calls : List (Path × Call ε)) : Prop where
  /-- Nodes are entered in the order in which they come in the tree. -/
  preorder : (entered calls).Sublist (places tree)
  once : ((entered calls).map Prod.fst).Nodup
  /-- A node is entered just if the visitor has descended into all those above it. -/
  entered_iff : ∀ path v, (path, v) ∈ entered calls ↔ NodeAt tree path v ∧
    ∀ p u, NodeAt tree p u → p <+: path → p ≠ path → Answered calls p .descend
  /-- A call shows the node in the tree that the calls before it have left, with its place there. -/
  shows : ∀ earlier path call later, calls = earlier ++ (path, call) :: later →
    call.Shows (tree.remove (removed earlier)) (moved (removed earlier) path)
  holds : ∀ call ∈ calls, call.2.site.Holds call.2.node
  /-- The position of an item is the original one, less the number of earlier items of the list that
  have been removed. -/
  index?_eq : ∀ earlier path key i call later,
    calls = earlier ++ (path ++ [.field key, .item i], call) :: later →
    call.site.index? = some (i - (List.range i).countP fun j =>
      removed earlier (path ++ [.field key, .item j]))
  bracketed : Bracketed calls
  /-- Just the nodes that stay are left again. -/
  left_perm : (left calls).Perm
    (((entered calls).map Prod.fst).filter fun path => !removed calls path)

section

variable {tree : Json} {calls : List (Path × Call ε)}

/-- Only the root stands at the site of a root. -/
theorem CallSequence.site_ne_root (h : CallSequence tree calls) {path : Path} {call : Call ε}
    (hcall : (path, call) ∈ calls) (hne : path ≠ []) : call.site ≠ .root := by
  obtain ⟨earlier, later, heq⟩ := List.append_of_mem hcall
  exact (h.shows earlier path call later heq).stands.ne_root (moved_ne_nil hne)

/-- A root is not removed. -/
theorem Segment.removed_root (h : Segment tree [] [([], tree)] calls) :
    Call.removed calls [] = false := by
  rw [← Bool.not_eq_true, Call.removed_eq_true_iff]
  rintro ⟨call, hcall, hremoves⟩
  obtain ⟨earlier, later, heq⟩ := List.append_of_mem hcall
  have hroot : call.site = .root := (h.shows earlier [] call later heq).stands.eq_root
  obtain ⟨site, v, rfl, hsite⟩ := removes_iff.1 hremoves
  exact hsite hroot

theorem Segment.callSequence (h : Segment tree [] [([], tree)] calls) (hd : tree.DistinctKeys) :
    CallSequence tree calls := by
  have hplaces : [(([] : Path), tree)].flatMap placesUnder = places tree := by
    rw [List.flatMap_singleton, placesUnder]
    exact List.map_id _
  have hpreorder := h.preorder
  rw [hplaces] at hpreorder
  have hshows : ∀ earlier path call later, calls = earlier ++ (path, call) :: later →
      call.Shows (tree.remove (Call.removed earlier)) (moved (Call.removed earlier) path) :=
    fun earlier path call later heq => List.nil_append earlier ▸ h.shows earlier path call later heq
  refine ⟨hpreorder, (hpreorder.map Prod.fst).nodup (nodup_places hd), fun path v => ?_, hshows,
    fun call hcall => ?_, fun earlier path key i call later heq => ?_, h.bracketed,
    h.bracketed.left_perm⟩
  · rw [h.entered_iff]
    constructor
    · rintro ⟨node, hnode, inner, rfl, hat, hall⟩
      cases List.mem_singleton.1 hnode
      exact ⟨hat, hall⟩
    · rintro ⟨hat, hall⟩
      exact ⟨_, List.mem_cons_self, path, rfl, hat, hall⟩
  · obtain ⟨earlier, later, heq⟩ := List.append_of_mem hcall
    exact (hshows earlier call.1 call.2 later heq).holds
  · have hstands := (hshows earlier _ call later heq).stands
    rw [moved_item] at hstands
    exact hstands.index?_eq

/-- The walk of a visitor that looks on, with its calls. -/
theorem exists_calls_walk (h : visitor.LooksOn Inv) (hnode : tree.isNode = true)
    (hd : tree.DistinctKeys) {s : σ} (hs : Inv s) :
    ∃ calls, calls.map Prod.snd = visitor.calls tree s ∧ Segment tree [] [([], tree)] calls ∧
      (walk visitor tree s).node = tree.remove (removed calls) ∧
      (walk visitor tree s).failure = none := by
  have hfailure := Tour.failure_walk h.isLocal h.answers hnode hs
  rw [← walk_recorded visitor tree (s, [])] at hfailure ⊢
  suffices hvisited : ∃ visited : Tour.Visited (σ × List (Call ε)) ε,
      (walk visitor.recorded tree (s, [])).node = visited.node?.getD tree ∧
      (walk visitor.recorded tree (s, [])).state = visited.state ∧
      ∃ calls, Wrote tree [] [([], tree)] (s, []) visited.state calls ∧
        visited.node? = left? (inside (removed calls) []) tree by
    obtain ⟨visited, hwalked, hstate, calls, ⟨hlog, hsegment⟩, hleft⟩ := hvisited
    refine ⟨calls, ?_, hsegment, ?_, hfailure⟩
    · rw [Visitor.calls, hstate, hlog, List.nil_append]
    · have hroot : inside (removed calls) [] [] = false := hsegment.removed_root
      rw [Walked.unrecorded, hwalked, hleft, left?, hroot]
      rfl
  have hun : Untouched tree ([] : List (Path × Call ε)) [] tree :=
    ⟨rfl, fun _ _ _ => rfl, List.forall_mem_nil _⟩
  have hstands : ∀ now, Site.root.Stands now [] := fun _ => .root
  by_cases hroot : (visitor.enter .root tree s).outcome = .ok .remove
  · have hinner : Segment tree [] (visitedChildren .remove tree) ([] : List (Path × Call ε)) :=
      .nil tree []
    have hself := remove_removed_nil (ε := ε) tree
    have hroot' : (visitor.recorded.enter .root tree (s, [])).outcome = .ok .remove := hroot
    have hkeep := h.node_eq .root tree s hs
    refine ⟨⟨some tree, (walk visitor.recorded tree (s, [])).state, none⟩, ?_, rfl,
      exists_calls_of_stays hun hnode hd (fun _ => rfl) hinner (hstands _) (fun _ => ⟨rfl, rfl⟩)
        (hstands _) (congrArg some hself.symm) ?_⟩
    · rw [Tour.walk_of_remove hroot']
      exact hkeep
    · rw [Tour.walk_of_remove hroot']
      simp only [Visitor.enter_recorded, Visitor.leave_recorded, hroot, hkeep, hself,
        List.append_assoc]
      rfl
  · have hroot' : (visitor.recorded.enter .root tree (s, [])).outcome ≠ .ok .remove := hroot
    rw [Tour.walk_eq h.recorded.isLocal hnode hs hroot']
    exact ⟨_, rfl, rfl, exists_calls_node h tree .root (fun _ => .root) hs hun hnode hd
      (fun hremove => absurd hremove hroot) (hstands _) (fun _ => ⟨rfl, rfl⟩)
      fun _ _ => hstands _⟩

/-- **The calls of every walk.**  A visitor that looks on is shown the nodes of the tree as
`CallSequence` says, and the walk leaves the tree without those that it has removed. -/
theorem callSequence_walk (h : visitor.LooksOn Inv) (hnode : tree.isNode = true)
    (hd : tree.DistinctKeys) {s : σ} (hs : Inv s) :
    ∃ calls, calls.map Prod.snd = visitor.calls tree s ∧ CallSequence tree calls ∧
      (walk visitor tree s).node = tree.remove (removed calls) ∧
      (walk visitor tree s).failure = none := by
  obtain ⟨calls, hcalls, hsegment, hleft, hfailure⟩ := exists_calls_walk h hnode hd hs
  exact ⟨calls, hcalls, hsegment.callSequence hd, hleft, hfailure⟩

end

/-! ### A sample -/

namespace Sample

/-- Every other empty statement is removed, and nothing is looked at below those that stay. -/
def thinner : Visitor Nat ShapeError where
  enter _ v n :=
    if v.isKind "EmptyStatement" then
      ⟨v, [], n + 1, .ok (if n % 2 = 0 then .remove else .skip)⟩
    else ⟨v, [], n, .ok .descend⟩
  leave _ _ n := n
  growth := 0

/-- What is left of the littered block. -/
def thinned : Json :=
  named "Block" "outer"
    [("body", .arr [empty, .null, named "Block" "a" [("body", .arr [.int 1])], empty,
        .int 7, named "Identifier" "b" [("first", .null)], empty]),
      ("test", .null), ("range", .arr [.int 0, .int 9])]

theorem looksOn_thinner : thinner.LooksOn fun _ => True where
  node_eq site v n _ := by
    simp only [thinner]
    split_ifs <;> rfl
  edits_eq site v n _ := by
    simp only [thinner]
    split_ifs <;> rfl
  answers site v n _ := by
    simp only [thinner]
    split_ifs <;> exact ⟨_, rfl⟩
  enter _ _ _ _ := trivial
  leave _ _ _ _ := trivial

end Sample

open Sample in
theorem callSequence_walk_thinner :
    thinner.LooksOn (fun _ => True) ∧ littered.isNode = true ∧ littered.DistinctKeys ∧
      ∃ calls, calls.map Prod.snd = thinner.calls littered 0 ∧ CallSequence littered calls ∧
        littered.remove (removed calls) = thinned := by
  have hroot : littered.isNode = true := by decide
  have hd : littered.DistinctKeys := by decide
  obtain ⟨calls, hcalls, hsequence, hleft, -⟩ :=
    callSequence_walk looksOn_thinner hroot hd (s := 0) trivial
  exact ⟨looksOn_thinner, hroot, hd, calls, hcalls, hsequence, hleft.symm.trans rfl⟩

end ComponentLookup
