import ComponentLookup.Proofs.Json.Hereditary
import ComponentLookup.Proofs.Walk.Tour

/-!
# Walks that may stop early

A visitor *follows* another if at every node it replies the same, or stops with a certain fault, and
that only at nodes that do not satisfy a condition (`Visitor.Follows`).  Let the condition be
hereditary, and let both visitors leave the parent alone.  Then **the walk follows the other walk**:
it does the same, or stops with the fault, which it does not in a tree that satisfies the condition
(`Visitor.Follows.walk`).

The induction goes over the tour of the tree; what has been visited before the stop does not matter.
-/

namespace ComponentLookup

open Json

variable {σ ε ε' : Type}

/-! ### Following -/

/-- The replies are the same, or the first one stops with the fault, which it does not under the
condition. -/
inductive Reply.Follows (fault : ε) (C : Prop) : Reply σ ε → Reply σ ε' → Prop where
  | same (node : Json) (edits : List ParentEdit) (s : σ) (action : Action) :
      Follows fault C ⟨node, edits, s, .ok action⟩ ⟨node, edits, s, .ok action⟩
  | stop (node : Json) (edits : List ParentEdit) (s : σ) (reply' : Reply σ ε') (h : ¬ C) :
      Follows fault C ⟨node, edits, s, .error fault⟩ reply'

/-- The walks end alike and do not fail, or the first one stops with the fault, which it does not
under the condition. -/
inductive Walked.Follows (fault : ε) (C : Prop) : Walked σ ε → Walked σ ε' → Prop where
  | same (node : Json) (s : σ) : Follows fault C ⟨node, s, none⟩ ⟨node, s, none⟩
  | stop (node : Json) (s : σ) (walked' : Walked σ ε') (h : ¬ C) :
      Follows fault C ⟨node, s, some fault⟩ walked'

/-- The visits of a node end alike and do not fail, or the first one stops with the fault, which it
does not under the condition. -/
inductive Tour.Visited.Follows (fault : ε) (C : Prop) : Visited σ ε → Visited σ ε' → Prop where
  | same (node? : Option Json) (s : σ) : Follows fault C ⟨node?, s, none⟩ ⟨node?, s, none⟩
  | stop (node? : Option Json) (s : σ) (visited' : Visited σ ε') (h : ¬ C) :
      Follows fault C ⟨node?, s, some fault⟩ visited'

/-- At every node the first visitor replies like the second, or stops with the fault, which it does
only where the node does not satisfy the condition. -/
structure Visitor.Follows (visitor : Visitor σ ε) (visitor' : Visitor σ ε') (Inv : σ → Prop)
    (fault : ε) (P : Json → Prop) : Prop where
  enter : ∀ site v s, Inv s → v.isNode = true →
    (visitor.enter site v s).Follows fault (P v) (visitor'.enter site v s)
  leave_eq : visitor.leave = visitor'.leave

theorem Walked.Follows.mono {fault : ε} {C D : Prop} {walked : Walked σ ε}
    {walked' : Walked σ ε'} (h : walked.Follows fault C walked') (hCD : D → C) :
    walked.Follows fault D walked' := by
  cases h with
  | same node s => exact .same node s
  | stop node s walked' hnot => exact .stop node s walked' fun hD => hnot (hCD hD)

/-! ### Tours -/

namespace Visitor.Follows

variable {visitor : Visitor σ ε} {visitor' : Visitor σ ε'} {Inv : σ → Prop} {fault : ε}
  {P : Json → Prop}

mutual

theorem node (h : visitor.Follows visitor' Inv fault P) (hp : Hereditary P)
    (hl : visitor'.IsLocal Inv) (before : Site) (after : Json → Site) :
    ∀ (v : Json) (s : σ), Inv s → v.isNode = true →
      (Tour.node visitor before after v s).Follows fault (P v)
        (Tour.node visitor' before after v s)
  | .obj fields, s, hs, hv => by
    have hreply := h.enter before (.obj fields) s hs hv
    have hinv := hl.enter before (.obj fields) s hs
    simp only [Tour.node, h.leave_eq]
    generalize visitor.enter before (.obj fields) s = reply at hreply ⊢
    generalize visitor'.enter before (.obj fields) s = reply' at hreply hinv ⊢
    cases hreply with
    | stop _ _ _ _ hnot => exact .stop _ _ _ hnot
    | same w edits s action =>
      cases action with
      | remove => exact .same none s
      | skip => exact .same _ _
      | descend =>
        have hslots := h.slots hp hl (.obj fields) fields s hinv
        dsimp only
        generalize Tour.slots visitor (.obj fields) fields s = walked at hslots ⊢
        generalize Tour.slots visitor' (.obj fields) fields s = walked' at hslots ⊢
        cases hslots with
        | same w s => exact .same _ _
        | stop _ _ _ hnot => exact .stop _ _ _ fun hobj => hnot (hp.obj_iff.1 hobj).2
  | .null, _, _, hv | .bool _, _, _, hv | .int _, _, _, hv | .float _, _, _, hv
  | .str _, _, _, hv | .arr _, _, _, hv => by cases hv

theorem slots (h : visitor.Follows visitor' Inv fault P) (hp : Hereditary P)
    (hl : visitor'.IsLocal Inv) (host : Json) :
    ∀ (fields : List (String × Json)) (s : σ), Inv s →
      (Tour.slots visitor host fields s).Follows fault (∀ field ∈ fields, P field.2)
        (Tour.slots visitor' host fields s)
  | [], s, _ => by
    simp only [Tour.slots]
    exact .same host s
  | (key, .arr siblings) :: rest, s, hs => by
    have hrest := fun host s hs => (h.slots hp hl host rest s hs).mono
      fun hall : ∀ field ∈ (key, .arr siblings) :: rest, P field.2 =>
        (List.forall_mem_cons.1 hall).2
    have hitems := h.items hp hl host key [] siblings s hs
    have hinv := Tour.inv_items hl host key [] siblings s hs
    simp only [Tour.slots]
    split
    · generalize Tour.items visitor host key [] siblings s = walked at hitems ⊢
      generalize Tour.items visitor' host key [] siblings s = walked' at hitems hinv ⊢
      cases hitems with
      | same w s => exact hrest w s hinv
      | stop _ _ _ hnot =>
        exact .stop _ _ _ fun hall => hnot (hp.arr_iff.1 (List.forall_mem_cons.1 hall).1)
    · exact hrest host s hs
  | (key, .obj fields) :: rest, s, hs => by
    have hrest := fun host s hs => (h.slots hp hl host rest s hs).mono
      fun hall : ∀ field ∈ (key, .obj fields) :: rest, P field.2 =>
        (List.forall_mem_cons.1 hall).2
    have hnode := h.node hp hl (.field host key) (fun w => .field (host.set key w) key)
      (.obj fields) s hs
    have hinv := Tour.inv_node hl (.field host key) (fun w => .field (host.set key w) key)
      (.obj fields) s hs
    simp only [Tour.slots]
    split
    · next hslot =>
      specialize hnode hslot.2
      generalize Tour.node visitor (.field host key) (fun w => .field (host.set key w) key)
        (.obj fields) s = visited at hnode ⊢
      generalize Tour.node visitor' (.field host key) (fun w => .field (host.set key w) key)
        (.obj fields) s = visited' at hnode hinv ⊢
      cases hnode with
      | same w? s => exact hrest _ s hinv
      | stop _ _ _ hnot => exact .stop _ _ _ fun hall => hnot (List.forall_mem_cons.1 hall).1
    · exact hrest host s hs
  | (key, .null) :: rest, s, hs | (key, .bool _) :: rest, s, hs | (key, .int _) :: rest, s, hs
  | (key, .float _) :: rest, s, hs | (key, .str _) :: rest, s, hs => by
    refine Walked.Follows.mono ?_ fun hall => (List.forall_mem_cons.1 hall).2
    simpa [Tour.slots, isNode, kind?, get?] using h.slots hp hl host rest s hs

theorem items (h : visitor.Follows visitor' Inv fault P) (hp : Hereditary P)
    (hl : visitor'.IsLocal Inv) (host : Json) (key : String) (done : List Json) :
    ∀ (rest : List Json) (s : σ), Inv s →
      (Tour.items visitor host key done rest s).Follows fault (∀ v ∈ rest, P v)
        (Tour.items visitor' host key done rest s)
  | [], s, _ => by
    simp only [Tour.items]
    exact .same _ s
  | v :: rest, s, hs => by
    have hrest := fun done s hs => (h.items hp hl host key done rest s hs).mono
      fun hall : ∀ w ∈ v :: rest, P w => (List.forall_mem_cons.1 hall).2
    set site := fun w => Site.item (host.set key (.arr (done ++ w :: rest))) key done.length
    have hnode := h.node hp hl (site v) site v s hs
    have hinv := Tour.inv_node hl (site v) site v s hs
    simp only [Tour.items]
    split
    · next hv =>
      specialize hnode hv
      generalize Tour.node visitor (site v) site v s = visited at hnode ⊢
      generalize Tour.node visitor' (site v) site v s = visited' at hnode hinv ⊢
      cases hnode with
      | same w? s => exact hrest _ s hinv
      | stop _ _ _ hnot => exact .stop _ _ _ fun hall => hnot (List.forall_mem_cons.1 hall).1
    · exact hrest _ s hs

end

/-! ### Walks -/

/-- **The walk follows the other walk.** -/
theorem walk (h : visitor.Follows visitor' Inv fault P) (hp : Hereditary P)
    (hl : visitor.IsLocal Inv) (hl' : visitor'.IsLocal Inv) {v : Json} (hv : v.isNode = true)
    {s : σ} (hs : Inv s) :
    (walk visitor v s).Follows fault (P v) (walk visitor' v s) := by
  have hroot := h.enter .root v s hs hv
  by_cases hremove : (visitor'.enter .root v s).outcome = .ok .remove
  · rw [Tour.walk_of_remove hremove, ComponentLookup.walk, h.leave_eq]
    generalize visitor.enter .root v s = reply at hroot ⊢
    generalize visitor'.enter .root v s = reply' at hroot hremove ⊢
    cases hroot with
    | same w edits s action =>
      cases hremove
      exact .same _ _
    | stop _ _ _ _ hnot => exact .stop _ _ _ hnot
  · have hstays : (visitor.enter .root v s).outcome ≠ .ok .remove := by
      generalize visitor.enter .root v s = reply at hroot ⊢
      generalize visitor'.enter .root v s = reply' at hroot hremove
      cases hroot with
      | same w edits s action =>
        intro heq
        cases heq
        exact hremove rfl
      | stop => simp
    have hnode := h.node hp hl' .root (fun _ => .root) v s hs hv
    rw [Tour.walk_eq hl hv hs hstays, Tour.walk_eq hl' hv hs hremove]
    dsimp only
    generalize Tour.node visitor .root (fun _ => .root) v s = visited at hnode ⊢
    generalize Tour.node visitor' .root (fun _ => .root) v s = visited' at hnode ⊢
    cases hnode with
    | same w? s => exact .same _ _
    | stop _ _ _ hnot => exact .stop _ _ _ hnot

end Visitor.Follows

end ComponentLookup
