import ComponentLookup.Walk.Basic

/-!
# Walks of two visitors

Two visitors may keep different states and still give the same replies.  If their states stay
related (`Visitor.Simulates`), then **their walks do the same** to every tree, fail alike, and end
in related states (`Visitor.Simulates.walk`).
-/

namespace ComponentLookup

open Json

variable {σ σ' ε : Type}

/-- The replies do the same, and lead to related states. -/
structure Reply.Simulates (reply' : Reply σ' ε) (reply : Reply σ ε) (R : σ' → σ → Prop) :
    Prop where
  node_eq : reply'.node = reply.node
  edits_eq : reply'.edits = reply.edits
  outcome_eq : reply'.outcome = reply.outcome
  state : R reply'.state reply.state

/-- From related states the two visitors reply the same, and their states stay related. -/
structure Visitor.Simulates (visitor' : Visitor σ' ε) (visitor : Visitor σ ε)
    (R : σ' → σ → Prop) : Prop where
  enter : ∀ site v s' s, R s' s →
    (visitor'.enter site v s').Simulates (visitor.enter site v s) R
  leave : ∀ site v s' s, R s' s → R (visitor'.leave site v s') (visitor.leave site v s)
  growth_eq : visitor'.growth = visitor.growth

/-- The trees are the same, the walks fail alike, and the states are related. -/
structure Walked.Simulates (walked' : Walked σ' ε) (walked : Walked σ ε) (R : σ' → σ → Prop) :
    Prop where
  node_eq : walked'.node = walked.node
  state : R walked'.state walked.state
  failure_eq : walked'.failure = walked.failure

/-- The parents are the same, the walks fail alike, and the states are related. -/
structure WalkedHost.Simulates (walked' : WalkedHost σ' ε) (walked : WalkedHost σ ε)
    (R : σ' → σ → Prop) : Prop where
  host_eq : walked'.host = walked.host
  state : R walked'.state walked.state
  failure_eq : walked'.failure = walked.failure

namespace Visitor.Simulates

variable {visitor' : Visitor σ' ε} {visitor : Visitor σ ε} {R : σ' → σ → Prop}

-- By induction on the fuel; each part calls the others with one unit less.
mutual

theorem children (h : visitor'.Simulates visitor R) :
    ∀ (fuel : Nat) (v : Json) {s' : σ'} {s : σ}, R s' s →
      (walkChildren visitor' fuel v s').Simulates (walkChildren visitor fuel v s) R
  | 0, _, _, _, hs => ⟨rfl, hs, rfl⟩
  | fuel + 1, v, _, _, hs => by
    obtain ⟨hhost, hstate, hfailure⟩ := h.slots fuel ⟨v, []⟩ (listedSlots v) hs
    exact ⟨congrArg Host.node hhost, hstate, hfailure⟩

theorem slots (h : visitor'.Simulates visitor R) :
    ∀ (fuel : Nat) (host : Host) (listed : List (String × Json)) {s' : σ'} {s : σ}, R s' s →
      (walkSlots visitor' fuel host listed s').Simulates (walkSlots visitor fuel host listed s) R
  | 0, host, _, _, _, hs => by
    simp only [walkSlots]
    exact ⟨rfl, hs, rfl⟩
  | fuel + 1, host, [], _, _, hs => by
    simp only [walkSlots]
    exact ⟨rfl, hs, rfl⟩
  | fuel + 1, host, (key, .arr siblings) :: rest, s', s, hs => by
    obtain ⟨hhost, hstate, hfailure⟩ := h.items fuel host key siblings 0 hs
    simp only [walkSlots, hhost, hfailure]
    split
    · exact ⟨rfl, hstate, rfl⟩
    · exact h.slots fuel _ rest hstate
  | fuel + 1, host, (key, .obj _) :: rest, s', s, hs
  | fuel + 1, host, (key, .null) :: rest, s', s, hs
  | fuel + 1, host, (key, .bool _) :: rest, s', s, hs
  | fuel + 1, host, (key, .int _) :: rest, s', s, hs
  | fuel + 1, host, (key, .float _) :: rest, s', s, hs
  | fuel + 1, host, (key, .str _) :: rest, s', s, hs => by
    have henter := fun v => h.enter (.field host.node key) v s' s hs
    simp only [walkSlots, (henter _).node_eq, (henter _).edits_eq, (henter _).outcome_eq]
    split
    · exact ⟨rfl, (henter _).state, rfl⟩
    · exact h.slots fuel _ rest (henter _).state
    · exact h.slots fuel _ rest (h.leave _ _ _ _ (henter _).state)
    · have hchildren := fun v w => h.children fuel v (henter w).state
      simp only [(hchildren _ _).node_eq, (hchildren _ _).failure_eq]
      split
      · exact ⟨rfl, (hchildren _ _).state, rfl⟩
      · exact h.slots fuel _ rest (h.leave _ _ _ _ (hchildren _ _).state)

theorem items (h : visitor'.Simulates visitor R) :
    ∀ (fuel : Nat) (host : Host) (key : String) (siblings : List Json) (index : Nat) {s' : σ'}
      {s : σ}, R s' s →
      (walkItems visitor' fuel host key siblings index s').Simulates
        (walkItems visitor fuel host key siblings index s) R
  | 0, _, _, _, _, _, _, hs => ⟨rfl, hs, rfl⟩
  | fuel + 1, host, key, siblings, index, s', s, hs => by
    have henter := fun v =>
      h.enter (.item (host.store key (.arr siblings)).node key index) v s' s hs
    simp only [walkItems, (henter _).node_eq, (henter _).edits_eq, (henter _).outcome_eq]
    split
    · exact ⟨rfl, hs, rfl⟩
    · split
      · split
        · exact ⟨rfl, (henter _).state, rfl⟩
        · exact h.items fuel _ key _ index (henter _).state
        · exact h.items fuel _ key _ (index + 1) (h.leave _ _ _ _ (henter _).state)
        · have hchildren := fun v w => h.children fuel v (henter w).state
          simp only [(hchildren _ _).node_eq, (hchildren _ _).failure_eq]
          split
          · exact ⟨rfl, (hchildren _ _).state, rfl⟩
          · exact h.items fuel _ key _ (index + 1) (h.leave _ _ _ _ (hchildren _ _).state)
      · exact h.items fuel host key siblings (index + 1) hs

end

/-- **The walks do the same**, whatever the two visitors keep in their states. -/
theorem walk (h : visitor'.Simulates visitor R) (tree : Json) {s' : σ'} {s : σ} (hs : R s' s) :
    (walk visitor' tree s').Simulates (walk visitor tree s) R := by
  have henter := h.enter .root tree s' s hs
  have hfuel : ∀ v, walkFuel visitor' v = walkFuel visitor v := fun v => by
    rw [walkFuel, walkFuel, h.growth_eq]
  simp only [ComponentLookup.walk, henter.node_eq, henter.outcome_eq, hfuel]
  split
  · exact ⟨rfl, henter.state, rfl⟩
  · have hchildren := fun fuel v => h.children fuel v henter.state
    simp only [(hchildren _ _).node_eq, (hchildren _ _).failure_eq]
    split
    · exact ⟨rfl, (hchildren _ _).state, rfl⟩
    · exact ⟨rfl, h.leave _ _ _ _ (hchildren _ _).state, rfl⟩
  · exact ⟨rfl, h.leave _ _ _ _ henter.state, rfl⟩

end Visitor.Simulates
end ComponentLookup
