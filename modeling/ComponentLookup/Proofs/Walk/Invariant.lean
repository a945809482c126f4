import ComponentLookup.Proofs.Walk.Simulation

/-!
# What a walk keeps

A visitor may edit the parent of a node and add siblings, so that a walk need not be a recursion on
the tree it was given.  Still its state changes in the calls of the visitor only.  What each call
keeps (`Visitor.Keeps`), **the walk keeps**, whatever else the visitor does (`Visitor.Keeps.walk`).
-/

namespace ComponentLookup

open Json

variable {σ ε : Type}

/-- Every call of the visitor keeps an invariant of the state. -/
structure Visitor.Keeps (visitor : Visitor σ ε) (Inv : σ → Prop) : Prop where
  enter : ∀ site v s, Inv s → Inv (visitor.enter site v s).state
  leave : ∀ site v s, Inv s → Inv (visitor.leave site v s)

namespace Visitor.Keeps

variable {visitor : Visitor σ ε} {Inv : σ → Prop}

/-- A visitor simulates itself, and the invariant holds along the way. -/
theorem simulates (h : visitor.Keeps Inv) :
    visitor.Simulates visitor fun s' s => s' = s ∧ Inv s where
  enter := by
    rintro site v _ s ⟨rfl, hs⟩
    exact ⟨rfl, rfl, rfl, rfl, h.enter site v _ hs⟩
  leave := by
    rintro site v _ s ⟨rfl, hs⟩
    exact ⟨rfl, h.leave site v _ hs⟩
  growth_eq := rfl

/-- **A walk keeps what every call of the visitor keeps.** -/
theorem walk (h : visitor.Keeps Inv) (v : Json) {s : σ} (hs : Inv s) :
    Inv (walk visitor v s).state :=
  (h.simulates.walk v ⟨rfl, hs⟩).state.2

end Visitor.Keeps
end ComponentLookup
