import ComponentLookup.Proofs.Walk.Simulation
import ComponentLookup.Proofs.Walk.Tour

/-!
# The calls of a visitor

A walk shows nodes to a visitor, before their children and after them.  `Visitor.calls` lists these
calls in order, with what the visitor is shown and what it answers.  They are written down by the
visitor itself (`Visitor.recorded`), and **the walk does not notice** (`walk_recorded`).

A visitor that looks on (`Visitor.LooksOn`) gives back each node as it is, leaves the parents alone
and answers each time; what it answers may depend on all that it has seen.
-/

namespace ComponentLookup

open Json

variable {σ ε : Type}

/-- One call of a visitor. -/
inductive Call (ε : Type) where
  | enter (site : Site) (node : Json) (outcome : Except ε Action)
  | leave (site : Site) (node : Json)

namespace Call

/-- Where the node stands. -/
def site : Call ε → Site
  | .enter site _ _ => site
  | .leave site _ => site

/-- The node that is shown. -/
def node : Call ε → Json
  | .enter _ node _ => node
  | .leave _ node => node

/-- The node is removed; a root has no place to be removed from. -/
def removes : Call ε → Bool
  | .enter .root _ _ => false
  | .enter _ _ (.ok .remove) => true
  | _ => false

theorem removes_iff {call : Call ε} :
    call.removes = true ↔ ∃ site v, call = .enter site v (.ok .remove) ∧ site ≠ .root := by
  constructor
  · intro h
    unfold removes at h
    split at h
    · cases h
    · rename_i hsite
      exact ⟨_, _, rfl, hsite⟩
    · cases h
  · rintro ⟨site, v, rfl, hsite⟩
    cases site with
    | root => exact absurd rfl hsite
    | _ => rfl

end Call

namespace Visitor

variable (visitor : Visitor σ ε)

/-- The visitor, writing down its calls. -/
def recorded : Visitor (σ × List (Call ε)) ε where
  enter := fun site v s =>
    let reply := visitor.enter site v s.1
    { node := reply.node, edits := reply.edits
      state := (reply.state, s.2 ++ [.enter site v reply.outcome])
      outcome := reply.outcome }
  leave := fun site v s => (visitor.leave site v s.1, s.2 ++ [.leave site v])
  growth := visitor.growth

@[simp] theorem enter_recorded (site : Site) (v : Json) (s : σ × List (Call ε)) :
    visitor.recorded.enter site v s =
      { node := (visitor.enter site v s.1).node, edits := (visitor.enter site v s.1).edits
        state := ((visitor.enter site v s.1).state,
          s.2 ++ [.enter site v (visitor.enter site v s.1).outcome])
        outcome := (visitor.enter site v s.1).outcome } := rfl

@[simp] theorem leave_recorded (site : Site) (v : Json) (s : σ × List (Call ε)) :
    visitor.recorded.leave site v s = (visitor.leave site v s.1, s.2 ++ [.leave site v]) := rfl

/-- The calls of a visitor during a walk. -/
def calls (tree : Json) (s : σ) : List (Call ε) := (walk visitor.recorded tree (s, [])).state.2

/-- The visitor gives nodes back as they are, leaves parents alone and answers each time, as long as
the state satisfies an invariant, which every call keeps. -/
structure LooksOn (Inv : σ → Prop) : Prop where
  node_eq : ∀ site v s, Inv s → (visitor.enter site v s).node = v
  edits_eq : ∀ site v s, Inv s → (visitor.enter site v s).edits = []
  answers : visitor.Answers Inv
  enter : ∀ site v s, Inv s → Inv (visitor.enter site v s).state
  leave : ∀ site v s, Inv s → Inv (visitor.leave site v s)

variable {visitor} {Inv : σ → Prop}

theorem LooksOn.isLocal (h : visitor.LooksOn Inv) : visitor.IsLocal Inv where
  edits_eq := h.edits_eq
  node_eq site v s hs _ := h.node_eq site v s hs
  enter := h.enter
  leave := h.leave

theorem LooksOn.recorded (h : visitor.LooksOn Inv) :
    visitor.recorded.LooksOn fun s => Inv s.1 where
  node_eq site v s hs := h.node_eq site v s.1 hs
  edits_eq site v s hs := h.edits_eq site v s.1 hs
  answers site v s hs := h.answers site v s.1 hs
  enter site v s hs := h.enter site v s.1 hs
  leave site v s hs := h.leave site v s.1 hs

end Visitor

/-! ### Walks with and without the record -/

/-- A walk without the record of its calls. -/
def Walked.unrecorded (walked : Walked (σ × List (Call ε)) ε) : Walked σ ε :=
  ⟨walked.node, walked.state.1, walked.failure⟩

theorem Visitor.simulates_recorded (visitor : Visitor σ ε) :
    visitor.recorded.Simulates visitor fun s' s => s'.1 = s where
  enter := by
    rintro site v s' _ rfl
    exact ⟨rfl, rfl, rfl, rfl⟩
  leave := by
    rintro site v s' _ rfl
    rfl
  growth_eq := rfl

/-- **The walk is the same** whether or not the visitor writes down its calls. -/
theorem walk_recorded (visitor : Visitor σ ε) (tree : Json) (s : σ × List (Call ε)) :
    (walk visitor.recorded tree s).unrecorded = walk visitor tree s.1 := by
  obtain ⟨hnode, hstate, hfailure⟩ := visitor.simulates_recorded.walk tree (Eq.refl s.1)
  rw [Walked.unrecorded, hnode, hstate, hfailure]

end ComponentLookup
