import ComponentLookup.Proofs.Rule.Addition
import ComponentLookup.Proofs.Rule.Kept

/-!
# Phases that are left as they were

A rule may use its tracer in any way, as long as it goes through the operations of a tracer
(`Tracer.Used`), and leaves as many phases open as it has found, and the same ones
(`Rule.KeepsPhases`).  Both built-in rules do (`keepsPhases_builtin`).

Each phase has the position of its own opening event, and a position is given only once.  So a
tracer whose open phases are the same after some operations as they were before has had none of them
closed in between, and **every event recorded in between** stands in the innermost of them, or in a
phase that was opened in between (`Tracer.Used.events_of_phases_eq`).
-/

namespace ComponentLookup

open Json

namespace Tracer

/-! ### Several operations -/

/-- What operations make of a tracer, one after another. -/
inductive Used : Tracer → Tracer → Prop
  | refl (t : Tracer) : Used t t
  | step {t t' : Tracer} {f : Tracer → Tracer} : Used t t' → Operation f → Used t (f t')

/-- No open phase has the position of an event that is still to come. -/
def PhasesBegun (t : Tracer) : Prop := ∀ i, some i ∈ t.phases → i < t.events.length

/-- The event at the position, if any, is one of those between two lengths of a trace. -/
def IsBetween (m n : Nat) (id : Option Nat) : Prop := ∃ i, id = some i ∧ m ≤ i ∧ i < n

theorem IsBetween.mono {m n n' : Nat} {id : Option Nat} (h : IsBetween m n id) (hn : n ≤ n') :
    IsBetween m n' id := by
  obtain ⟨i, hid, hm, hi⟩ := h
  exact ⟨i, hid, hm, Nat.lt_of_lt_of_le hi hn⟩

variable {t t₀ t₁ t₂ : Tracer} {f : Tracer → Tracer}

theorem Used.trans (h : Used t₀ t₁) (h' : Used t₁ t₂) : Used t₀ t₂ := by
  induction h' with
  | refl => exact h
  | step _ hf ih => exact ih.step hf

theorem Used.recording (h : Used t₀ t) : t.recording = t₀.recording := by
  induction h with
  | refl => rfl
  | step _ hf ih => exact (hf.recording _).trans ih

@[simp] theorem phases_record (t : Tracer) (body : EventBody) (parent : Option Nat) :
    (t.record body parent).phases = t.phases := by
  unfold record
  split <;> rfl

theorem events_record (h : t.recording = true) (body : EventBody) (parent : Option Nat) :
    (t.record body parent).events = t.events ++ [⟨body, parent⟩] := by
  rw [record, if_pos h]

/-- What has become of the events and the phases of a tracer: events were added, some phases were
opened (`opened`), and some of the old ones were closed (`closed`). -/
structure Grown (t₀ t : Tracer) (added : List Event) (opened closed kept : List (Option Nat)) :
    Prop where
  events_eq : t.events = t₀.events ++ added
  phases_eq : t.phases = opened ++ kept
  phases_eq₀ : t₀.phases = closed ++ kept
  /-- The new phases were opened by new events. -/
  opened_between : ∀ id ∈ opened, IsBetween t₀.events.length t.events.length id
  /-- As long as no old phase has been closed, a new event stands in the innermost old one or
  in a new one. -/
  parents : closed = [] → ∀ e ∈ added,
    e.parent = t₀.innermost ∨ IsBetween t₀.events.length t.events.length e.parent

namespace Grown

variable {added : List Event} {opened closed kept : List (Option Nat)}

theorem refl (t : Tracer) : Grown t t [] [] [] t.phases :=
  ⟨(List.append_nil _).symm, rfl, rfl, List.forall_mem_nil _, fun _ => List.forall_mem_nil _⟩

/-- The innermost phase is the innermost old one or a new one. -/
theorem innermost (h : Grown t₀ t added opened closed kept) (hclosed : closed = []) :
    t.innermost = t₀.innermost ∨
      IsBetween t₀.events.length t.events.length t.innermost := by
  have h₀ := h.phases_eq₀
  rw [hclosed, List.nil_append] at h₀
  cases opened with
  | nil => exact .inl (by rw [Tracer.innermost, Tracer.innermost, h.phases_eq, h₀, List.nil_append])
  | cons id rest =>
    rw [Tracer.innermost, h.phases_eq, List.cons_append, List.head?_cons, Option.join_some]
    exact .inr (h.opened_between id List.mem_cons_self)

/-- One more event, under the innermost phase or, if old phases have been closed, anywhere; it may
open and close phases. -/
theorem record (h : Grown t₀ t added opened closed kept) (hrec : t.recording = true)
    {body : EventBody} {parent : Option Nat} {phases opened' closed' : List (Option Nat)}
    {kept' : List (Option Nat)} (hphases : phases = opened' ++ kept')
    (hphases₀ : t₀.phases = closed' ++ kept') (hclosed : closed' = [] → closed = [])
    (hopened : ∀ id ∈ opened', id ∈ opened ∨ id = some t.events.length)
    (hparent : closed' = [] → parent = t₀.innermost ∨
      IsBetween t₀.events.length t.events.length parent) :
    Grown t₀ { t.record body parent with phases } (added ++ [⟨body, parent⟩]) opened' closed'
      kept' := by
  have hevents : (t.record body parent).events = t.events ++ [⟨body, parent⟩] :=
    events_record hrec body parent
  have hle₀ : t₀.events.length ≤ t.events.length := by
    rw [h.events_eq, List.length_append]
    exact Nat.le_add_right _ _
  have hlt : t.events.length < (t.record body parent).events.length := by
    rw [hevents, List.length_append]
    exact Nat.lt_succ_self _
  refine ⟨?_, hphases, hphases₀, fun id hid => ?_, fun hnil e he => ?_⟩
  · exact hevents.trans (by rw [h.events_eq, List.append_assoc])
  · rcases hopened id hid with hold | hnew
    · exact (h.opened_between id hold).mono (Nat.le_of_lt hlt)
    · exact ⟨_, hnew, hle₀, hlt⟩
  · rcases List.mem_append.1 he with hold | hnew
    · exact (h.parents (hclosed hnil) e hold).imp_right (·.mono (Nat.le_of_lt hlt))
    · rw [List.mem_singleton.1 hnew]
      exact (hparent hnil).imp_right (·.mono (Nat.le_of_lt hlt))

/-- An event under the innermost phase. -/
theorem log (h : Grown t₀ t added opened closed kept) (hrec : t.recording = true)
    (body : EventBody) :
    Grown t₀ (t.record body t.innermost) (added ++ [⟨body, t.innermost⟩]) opened closed kept := by
  have heq : t.record body t.innermost =
      { t.record body t.innermost with phases := t.phases } := by
    rw [Tracer.record, if_pos hrec]
  rw [heq]
  exact h.record hrec h.phases_eq h.phases_eq₀ id (fun _ => .inl) h.innermost

/-- The end of the innermost phase closes a new phase, if one is open, and else an old one. -/
theorem endPhase (h : Grown t₀ t added opened closed kept) (hrec : t.recording = true) :
    ∃ added' opened' closed' kept', Grown t₀ t.endPhase added' opened' closed' kept' := by
  cases hopen : t.phases with
  | nil =>
    have hself : t.endPhase = t := by rw [Tracer.endPhase, hopen]
    rw [hself]
    exact ⟨_, _, _, _, h⟩
  | cons phase rest =>
    have hend : t.endPhase = { t.record .phaseEnd phase with phases := rest } := by
      rw [Tracer.endPhase, hopen]
    have hphases := h.phases_eq
    rw [hopen] at hphases
    rw [hend]
    cases opened with
    | cons id opened =>
      obtain ⟨rfl, rfl⟩ := List.cons.inj hphases
      have hid := h.opened_between phase List.mem_cons_self
      exact ⟨_, _, _, _, h.record hrec rfl h.phases_eq₀ (fun hnil => hnil)
        (fun id hid => .inl (List.mem_cons_of_mem _ hid)) fun _ => .inr hid⟩
    | nil =>
      rw [List.nil_append] at hphases
      have h₀ : t₀.phases = (closed ++ [phase]) ++ rest := by
        rw [h.phases_eq₀, ← hphases, List.append_assoc, List.singleton_append]
      have hne : closed ++ [phase] ≠ [] :=
        List.append_ne_nil_of_right_ne_nil _ (List.cons_ne_nil _ _)
      exact ⟨_, [], _, _, h.record hrec rfl h₀ (fun hnil => absurd hnil hne)
        (List.forall_mem_nil _) fun hnil => absurd hnil hne⟩

/-- One more operation. -/
theorem step (h : Grown t₀ t added opened closed kept) (hrec : t.recording = true)
    (hf : Operation f) :
    ∃ added' opened' closed' kept', Grown t₀ (f t) added' opened' closed' kept' := by
  cases hf with
  | startPhase name detail =>
    have hid : t.nextId = some t.events.length := if_pos hrec
    have hphases : t.nextId :: t.phases = (t.nextId :: opened) ++ kept := by
      rw [h.phases_eq, List.cons_append]
    refine ⟨_, _, _, _, h.record hrec hphases h.phases_eq₀ id (fun id' hid' => ?_) h.innermost⟩
    exact (List.mem_cons.1 hid').symm.imp_right fun heq => heq.trans hid
  | endPhase => exact h.endPhase hrec
  | logMutation m => exact ⟨_, _, _, _, h.log hrec _⟩
  | logWarning message => exact ⟨_, _, _, _, h.log hrec _⟩
  | logInspection subject outcome detail => exact ⟨_, _, _, _, h.log hrec _⟩

end Grown

theorem Used.grown (h : Used t₀ t) (hrec : t₀.recording = true) :
    ∃ added opened closed kept, Grown t₀ t added opened closed kept := by
  induction h with
  | refl => exact ⟨_, _, _, _, .refl t₀⟩
  | step hused hf ih =>
    obtain ⟨_, _, _, _, hgrown⟩ := ih
    exact hgrown.step (hused.recording.trans hrec) hf

/-- Whatever was done with a tracer that records, its open phases have begun. -/
theorem phasesBegun_of_used (h : Used (empty true) t) : t.PhasesBegun := by
  obtain ⟨added, opened, closed, kept, hgrown⟩ := h.grown rfl
  obtain ⟨-, rfl⟩ := List.append_eq_nil_iff.1 hgrown.phases_eq₀.symm
  intro i hi
  rw [hgrown.phases_eq, List.append_nil] at hi
  obtain ⟨j, heq, -, hj⟩ := hgrown.opened_between _ hi
  exact Option.some.inj heq ▸ hj

/-- **Where the events of some operations stand** that leave the same phases open: in the innermost
of these, or in a phase that one of the events has opened. -/
theorem Used.events_of_phases_eq (h : Used t₀ t) (hrec : t₀.recording = true)
    (hbegun : t₀.PhasesBegun) (hphases : t.phases = t₀.phases) :
    ∃ added, t.events = t₀.events ++ added ∧ ∀ e ∈ added,
      e.parent = t₀.innermost ∨ IsBetween t₀.events.length t.events.length e.parent := by
  obtain ⟨added, opened, closed, kept, hgrown⟩ := h.grown hrec
  have hsame : opened = closed := List.append_cancel_right <| by
    rw [← hgrown.phases_eq, ← hgrown.phases_eq₀, hphases]
  -- what was closed had begun before, and what was opened has not
  have hnil : closed = [] := List.eq_nil_iff_forall_not_mem.2 fun id hid => by
    obtain ⟨i, rfl, hle, -⟩ := hgrown.opened_between id (hsame ▸ hid)
    have hlt := hbegun i (hgrown.phases_eq₀ ▸ List.mem_append_left _ hid)
    exact Nat.not_lt.2 hle hlt
  exact ⟨added, hgrown.events_eq, hgrown.parents hnil⟩

end Tracer

/-! ### Rules -/

/-- The rule goes through the operations of the tracer, and leaves the same phases open, whether it
returns or fails. -/
structure Rule.KeepsPhases (rule : Rule) : Prop where
  used : ∀ (v : Json) (ctx : Context), v.isNode = true →
    ctx.tracer.Used (rule.apply v ctx).context.tracer
  phases_eq : ∀ (v : Json) (ctx : Context), v.isNode = true →
    (rule.apply v ctx).context.tracer.phases = ctx.tracer.phases

theorem Context.isKept_used (t : Tracer) : Context.IsKept fun ctx => t.Used ctx.tracer where
  count _ _ _ _ h := h
  traced _ _ hf h := h.step hf
  report _ _ _ h := h

theorem Context.Adds.phases_eq {f : Context → Context} {ctx : Context}
    (h : Context.Adds ctx.config f) : (f ctx).tracer.phases = ctx.tracer.phases := by
  obtain ⟨a, ha⟩ := h
  rw [ha ctx (.refl _), Context.add, Tracer.extend]
  split_ifs <;> rfl

/-- **The built-in rules** leave the phases as they were. -/
theorem keepsPhases_builtin (builtin : BuiltinRule) : builtin.rule.KeepsPhases := by
  cases builtin with
  | runtimeImport =>
    exact ⟨fun _ ctx hv => (Context.isKept_used ctx.tracer).runtimeImport hv (.refl _),
      fun _ ctx hv => (adds_runtimeImport ctx.config hv).phases_eq⟩
  | renderFunction =>
    exact ⟨fun _ ctx hv => (Context.isKept_used ctx.tracer).renderFunction hv (.refl _),
      fun _ ctx hv => (adds_renderFunction ctx.config hv).phases_eq⟩

end ComponentLookup
