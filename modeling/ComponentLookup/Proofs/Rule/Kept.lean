import ComponentLookup.Proofs.Rule.Dispatch
import ComponentLookup.Proofs.Walk.Invariant

/-!
# What the rules keep of a context

A built-in rule changes the context in three ways only: it adds to one of its four counters, it
hands an event to the tracer, and it logs a message.  A condition that survives these
(`Context.IsKept`) survives a rule (`IsKept.handled`), a dispatch (`IsKept.dispatch`) and a walk
(`IsKept.walk`), which under the built-in rules never fails either (`failure_ruleVisitor`).

The four counters stay where they are (`Context.isKept_hasCounters`), and a tracer that records goes
on recording (`Tracer.Operation.recording`).
-/

namespace ComponentLookup

open Json

/-- What a rule may do with a tracer. -/
inductive Tracer.Operation : (Tracer → Tracer) → Prop where
  | startPhase (name detail : String) : Operation (·.startPhase name detail)
  | endPhase : Operation (·.endPhase)
  | logMutation (m : Mutation) : Operation (·.logMutation m)
  | logWarning (message : String) : Operation (·.logWarning message)
  | logInspection (subject outcome detail : String) :
      Operation (·.logInspection subject outcome detail)

theorem Tracer.recording_record (t : Tracer) (body : EventBody) (parent : Option Nat) :
    (t.record body parent).recording = t.recording := by
  unfold record
  split <;> rfl

/-- A tracer that records goes on recording. -/
theorem Tracer.Operation.recording {f : Tracer → Tracer} (h : Operation f) (t : Tracer) :
    (f t).recording = t.recording := by
  cases h with
  | endPhase =>
    simp only [Tracer.endPhase]
    split
    · rfl
    · exact recording_record _ _ _
  | _ => exact recording_record _ _ _

/-- The condition survives each of the things that a rule does to a context. -/
structure Context.IsKept (P : Context → Prop) : Prop where
  count : ∀ ctx key amount, key ∈ Stats.initial.map Prod.fst → P ctx → P (ctx.count key amount)
  traced : ∀ ctx f, Tracer.Operation f → P ctx → P (ctx.traced f)
  report : ∀ ctx level message, P ctx → P (ctx.report level message)

namespace Context.IsKept

variable {P : Context → Prop} {ctx ctx' : Context} {v : Json}

/-! ### Rules -/

theorem statement? (h : IsKept P) {index n : Nat} {s s' : Json} (hctx : P ctx)
    (hs : ReferenceScan.statement? index s ctx = some (s', ctx', n)) : P ctx' := by
  rcases ReferenceScan.statement?_cases hs with
    ⟨-, -, -, rfl | rfl⟩ | ⟨-, -, -, rfl⟩ | ⟨-, -, -, rfl⟩
  · exact hctx
  · exact h.traced _ _ (.logInspection _ _ _) hctx
  · exact h.traced _ _ (.logMutation _) (h.count _ _ _ (by decide) hctx)
  · exact h.traced _ _ (.logMutation _) hctx

theorem scan (h : IsKept P) (index : Nat) (body : List Json) (hctx : P ctx) :
    P (ReferenceScan.scan index body ctx).2.1 := by
  induction body generalizing index ctx with
  | nil => exact hctx
  | cons s rest ih =>
    cases hs : ReferenceScan.statement? index s ctx with
    | none => simpa [ReferenceScan.scan, hs] using hctx
    | some result =>
      obtain ⟨s', ctx', n⟩ := result
      simpa [ReferenceScan.scan, hs] using ih (index + 1) (h.statement? hctx hs)

theorem applyToEntry (h : IsKept P) (hv : v.isNode = true) (name : String) (hctx : P ctx) :
    P (RenderFunction.applyToEntry v name ctx).context := by
  cases hb : Program.renderBody? v ctx.config.renderBodyName with
  | none =>
    simp only [Program.applyToEntry_of_none hv name hb]
    exact h.traced _ _ (.logWarning _) (h.report _ _ _ hctx)
  | some result =>
    obtain ⟨body, inner⟩ := result
    simp only [Program.applyToEntry_of_some hv name hb]
    have hstart : P (Program.scanContext ctx) := h.traced _ _ (.startPhase _ _) hctx
    have hscan := h.scan 0 inner hstart
    exact h.traced _ _ .endPhase (h.count _ _ _ (by decide) hscan)

theorem renderFunction (h : IsKept P) (hv : v.isNode = true) (hctx : P ctx) :
    P (RenderFunction.apply v ctx).context := by
  unfold RenderFunction.apply
  cases Node.functionName? v with
  | none => exact hctx
  | some name =>
    dsimp only
    split_ifs
    · exact h.applyToEntry hv name hctx
    · dsimp only
      exact h.traced _ _ (.logMutation _) (h.count _ _ _ (by decide) hctx)
    · exact hctx

theorem runtimeImport (h : IsKept P) (hv : v.isNode = true) (hctx : P ctx) :
    P (RuntimeImport.apply v ctx).context := by
  obtain ⟨heq, -⟩ | ⟨source, items, -, -, -, heq⟩ | ⟨items, -, -, -, heq⟩ :=
    Program.runtimeImport_cases hv ctx
  · rw [heq]
    exact hctx
  · simp only [heq]
    exact h.traced _ _ (.logInspection _ _ _) hctx
  · simp only [heq]
    exact h.traced _ _ (.logMutation _) (h.count _ _ _ (by decide) hctx)

theorem handled (h : IsKept P) (hv : v.isNode = true) (hctx : P ctx) :
    P (handled v ctx).context := by
  unfold ComponentLookup.handled
  split_ifs
  · exact h.runtimeImport hv hctx
  · exact h.renderFunction hv hctx
  · exact hctx

/-! ### Walks -/

theorem dispatch (h : IsKept P) (v : Json) {s : RuleState} (hs : s.registry.OnlyBuiltins)
    (hctx : P s.context) : P (dispatch v s).state.context := by
  by_cases hv : v.isNode = true
  · by_cases hp : v.isKind "Program" = true
    · rwa [dispatch_program hp]
    · obtain ⟨registry, -, heq⟩ := dispatch_eq hv hp hs
      rw [heq]
      exact h.handled hv hctx
  · rwa [dispatch_of_not_isNode hv]

theorem keeps (h : IsKept P) (registry : Registry) :
    (ruleVisitor registry).Keeps fun s => s.registry.OnlyBuiltins ∧ P s.context where
  enter site v s hs := ⟨(isLocal_ruleVisitor registry).enter site v s hs.1, h.dispatch v hs.1 hs.2⟩
  leave _ _ _ hs := hs

theorem walk (h : IsKept P) (registry : Registry) (v : Json) {s : RuleState}
    (hs : s.registry.OnlyBuiltins) (hctx : P s.context) :
    P (walk (ruleVisitor registry) v s).state.context :=
  ((h.keeps registry).walk v ⟨hs, hctx⟩).2

end Context.IsKept

/-- Under the built-in rules every node gets an answer. -/
theorem answers_ruleVisitor (registry : Registry) :
    (ruleVisitor registry).Answers (·.registry.OnlyBuiltins) := by
  intro site v s hs
  rw [enter_ruleVisitor]
  by_cases hv : v.isNode = true
  · by_cases hp : v.isKind "Program" = true
    · exact ⟨.descend, by rw [dispatch_program hp]⟩
    · obtain ⟨_, -, heq⟩ := dispatch_eq hv hp hs
      rw [heq, (handled_eq hv s.context).1]
      exact ⟨_, rfl⟩
  · exact ⟨.skip, by rw [dispatch_of_not_isNode hv]⟩

/-- **A walk under the built-in rules does not fail**, whatever the tree is made of. -/
theorem failure_ruleVisitor (registry : Registry) {v : Json} (hv : v.isNode = true)
    {s : RuleState} (hs : s.registry.OnlyBuiltins) :
    (walk (ruleVisitor registry) v s).failure = none :=
  Tour.failure_walk (isLocal_ruleVisitor registry) (answers_ruleVisitor registry) hv hs

/-! ### Counters -/

theorem Stats.map_fst_count {stats : Stats} {key : String} (h : key ∈ stats.map Prod.fst)
    (amount : Int) : (stats.count key amount).map Prod.fst = stats.map Prod.fst := by
  induction stats with
  | nil => cases h
  | cons entry rest ih =>
    obtain ⟨k, n⟩ := entry
    simp only [Stats.count]
    split_ifs with hk
    · rfl
    · rw [List.map_cons, List.map_cons, ih ((List.mem_cons.1 h).resolve_left (Ne.symm hk))]

theorem Stats.get_mem {stats : Stats} {key : String} (h : key ∈ stats.map Prod.fst) :
    (key, stats.get key) ∈ stats := by
  induction stats with
  | nil => cases h
  | cons entry rest ih =>
    obtain ⟨k, n⟩ := entry
    simp only [Stats.get]
    split_ifs with hk
    · rw [hk]
      exact List.mem_cons_self
    · exact List.mem_cons_of_mem _ (ih ((List.mem_cons.1 h).resolve_left (Ne.symm hk)))

namespace Context

/-- The counters are those of the built-in rules, in their order. -/
def HasCounters (ctx : Context) : Prop := ctx.stats.map Prod.fst = Stats.initial.map Prod.fst

theorem isKept_hasCounters : IsKept HasCounters where
  count ctx key amount hkey h := by
    have hmem : key ∈ ctx.stats.map Prod.fst := by
      rw [h]
      exact hkey
    exact (Stats.map_fst_count hmem amount).trans h
  traced _ _ _ h := h
  report _ _ _ h := h

end Context

end ComponentLookup
