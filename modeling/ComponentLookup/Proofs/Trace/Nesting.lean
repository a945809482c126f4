import ComponentLookup.Proofs.Rule.Phases
import Mathlib.Data.List.Induction

/-!
# Phases nest

A tracer keeps a stack of the phases that are open.  What a reader of the trace has is the list of
events, and from it he can tell which phases are open: a phase is open as soon as an event has
started it, until an event names it as the phase that it ends (`Tracer.openPhases`).

`Tracer.nested_after` : **whatever is asked of a new tracer**, in whatever order, both agree all the
time, and so the phases in the trace are well nested (`Tracer.Nested`).  That an event names the
innermost open phase is one invariant of both (`Tracer.Agrees`), kept by each command; the rest
follows from it, because a phase that was started later stands in front of the others.
-/

namespace ComponentLookup

namespace EventBody

/-- The event is the start of a phase. -/
def isStart : EventBody → Bool
  | .phaseStart .. => true
  | _ => false

/-- The event is the end of a phase. -/
def isEnd : EventBody → Bool
  | .phaseEnd => true
  | _ => false

end EventBody

namespace Tracer

/-! ### Commands -/

/-- What can be asked of a tracer. -/
inductive Command where
  | startPhase (name detail : String)
  | endPhase
  | logMutation (m : Mutation)
  | logWarning (message : String)
  | logInspection (subject outcome detail : String)

namespace Command

/-- The tracer behind a command. -/
def run (t : Tracer) : Command → Tracer
  | .startPhase name detail => t.startPhase name detail
  | .endPhase => t.endPhase
  | .logMutation m => t.logMutation m
  | .logWarning message => t.logWarning message
  | .logInspection subject outcome detail => t.logInspection subject outcome detail

/-- What the event of a command tells. -/
def body : Command → EventBody
  | .startPhase name detail => .phaseStart name detail
  | .endPhase => .phaseEnd
  | .logMutation m => .mutation m
  | .logWarning message => .warning message
  | .logInspection subject outcome detail => .inspection subject outcome detail

theorem eq_endPhase {command : Command} (h : command.body.isEnd = true) : command = .endPhase := by
  cases command with
  | endPhase => rfl
  | _ => cases h

end Command

/-- A new tracer behind some commands. -/
def after (commands : List Command) : Tracer := commands.foldl Command.run (empty true)

theorem after_append_singleton (commands : List Command) (command : Command) :
    after (commands ++ [command]) = command.run (after commands) := by
  rw [after, List.foldl_append]
  rfl

/-! ### Open phases -/

/-- The event at the position has started a phase, and none of the events has ended it. -/
def isOpen (events : List Event) (i : Nat) : Bool :=
  (events[i]?.any fun e => e.body.isStart) && decide (⟨.phaseEnd, some i⟩ ∉ events)

/-- The phases that are open behind some events, by the positions of the events that have started
them, the last one first. -/
def openPhases (events : List Event) : List Nat :=
  (List.range events.length).reverse.filter (isOpen events)

variable {t : Tracer} {events before behind : List Event} {e : Event} {i j : Nat}

theorem mem_openPhases : i ∈ openPhases events ↔ isOpen events i = true := by
  rw [openPhases, List.mem_filter, List.mem_reverse, List.mem_range]
  refine and_iff_right_of_imp fun h => ?_
  by_contra hlen
  rw [isOpen, List.getElem?_eq_none (Nat.not_lt.1 hlen)] at h
  cases h

theorem isOpen_iff : isOpen events i = true ↔
    (∃ name detail parent, events[i]? = some ⟨.phaseStart name detail, parent⟩) ∧
      ⟨.phaseEnd, some i⟩ ∉ events := by
  rw [isOpen, Bool.and_eq_true, decide_eq_true_eq, Option.any_eq_true]
  refine and_congr_left fun _ => ⟨?_, ?_⟩
  · rintro ⟨⟨body, parent⟩, hget, hstart⟩
    cases body with
    | phaseStart name detail => exact ⟨name, detail, parent, hget⟩
    | _ => cases hstart
  · rintro ⟨name, detail, parent, hget⟩
    exact ⟨_, hget, rfl⟩

theorem lt_of_mem_openPhases (h : i ∈ openPhases events) : i < events.length :=
  List.mem_range.1 (List.mem_reverse.1 (List.mem_of_mem_filter h))

/-- Open phases come in the reverse order of their starts. -/
theorem pairwise_openPhases (events : List Event) : (openPhases events).Pairwise (· > ·) :=
  (List.pairwise_reverse.2 List.pairwise_lt_range).filter _

/-- The innermost phase was started last. -/
theorem le_of_head?_openPhases (h : (openPhases events).head? = some i)
    (hj : j ∈ openPhases events) : j ≤ i := by
  obtain ⟨rest, hopen⟩ := List.head?_eq_some_iff.1 h
  have hsorted := pairwise_openPhases events
  rw [hopen, List.pairwise_cons] at hsorted
  rw [hopen, List.mem_cons] at hj
  rcases hj with rfl | hj
  · exact Nat.le_refl _
  · exact Nat.le_of_lt (hsorted.1 j hj)

theorem isOpen_append_singleton (h : i < events.length) :
    isOpen (events ++ [e]) i = (isOpen events i && decide (e ≠ ⟨.phaseEnd, some i⟩)) := by
  rw [isOpen, isOpen, List.getElem?_append_left h, Bool.and_assoc]
  simp only [List.mem_append, List.mem_singleton, not_or, Bool.decide_and, eq_comm]

/-- One more event may open a phase, and may close one. -/
theorem openPhases_append_singleton (events : List Event) (e : Event) :
    openPhases (events ++ [e]) =
      (if isOpen (events ++ [e]) events.length = true then [events.length] else []) ++
        (openPhases events).filter fun i => decide (e ≠ ⟨.phaseEnd, some i⟩) := by
  have hold : (List.range events.length).reverse.filter (isOpen (events ++ [e])) =
      (openPhases events).filter fun i => decide (e ≠ ⟨.phaseEnd, some i⟩) := by
    rw [openPhases, List.filter_filter]
    refine List.filter_congr fun i hi => ?_
    rw [isOpen_append_singleton (List.mem_range.1 (List.mem_reverse.1 hi)), Bool.and_comm]
  rw [← hold, openPhases, List.length_append, List.length_singleton, List.range_succ,
    List.reverse_append, List.filter_append, List.reverse_singleton, List.filter_singleton,
    cond_eq_ite]

theorem openPhases_append_of_not_isStart (h : e.body.isStart = false) :
    openPhases (events ++ [e]) =
      (openPhases events).filter fun i => decide (e ≠ ⟨.phaseEnd, some i⟩) := by
  have hnot : isOpen (events ++ [e]) events.length = false := by
    rw [isOpen, List.getElem?_concat_length, Option.any_some, h, Bool.false_and]
  rw [openPhases_append_singleton, hnot, if_neg Bool.false_ne_true, List.nil_append]

/-- The start of a phase opens it, unless it has been ended before. -/
theorem openPhases_append_start {name detail : String} {parent : Option Nat}
    (h : ⟨.phaseEnd, some events.length⟩ ∉ events) :
    openPhases (events ++ [⟨.phaseStart name detail, parent⟩]) =
      events.length :: openPhases events := by
  have hopen : isOpen (events ++ [⟨.phaseStart name detail, parent⟩]) events.length = true := by
    refine isOpen_iff.2 ⟨⟨_, _, _, List.getElem?_concat_length⟩, fun hmem => ?_⟩
    rcases List.mem_append.1 hmem with hmem | hmem
    · exact h hmem
    · cases List.mem_singleton.1 hmem
  have hkeep : (openPhases events).filter
      (fun i => decide ((⟨.phaseStart name detail, parent⟩ : Event) ≠ ⟨.phaseEnd, some i⟩)) =
        openPhases events :=
    List.filter_eq_self.2 fun i _ => decide_eq_true fun heq => by cases heq
  rw [openPhases_append_singleton, if_pos hopen, hkeep, List.singleton_append]

/-- The end of the innermost phase leaves the others open. -/
theorem openPhases_append_end {rest : List Nat} (h : openPhases events = i :: rest) :
    openPhases (events ++ [⟨.phaseEnd, some i⟩]) = rest := by
  have hsorted := pairwise_openPhases events
  rw [h, List.pairwise_cons] at hsorted
  rw [openPhases_append_of_not_isStart rfl, h, List.filter_cons_of_neg (by simp)]
  refine List.filter_eq_self.2 fun j hj => decide_eq_true fun heq => ?_
  cases heq
  exact Nat.lt_irrefl _ (hsorted.1 _ hj)

/-- An event that neither starts nor ends a phase leaves all open. -/
theorem openPhases_append_other (hstart : e.body.isStart = false) (hend : e.body.isEnd = false) :
    openPhases (events ++ [e]) = openPhases events := by
  rw [openPhases_append_of_not_isStart hstart]
  refine List.filter_eq_self.2 fun i _ => decide_eq_true fun heq => ?_
  rw [heq] at hend
  cases hend

/-! ### Events in their places -/

/-- The open phases behind one more event, which has the given position and ends no other phase than
the innermost one. -/
def phasesBehind (position : Nat) (phases : List Nat) : EventBody → List Nat
  | .phaseStart .. => position :: phases
  | .phaseEnd => phases.tail
  | _ => phases

/-- The event has the innermost of the phases as its parent that are open before it, and there is
one if the event is an end. -/
structure FitsBehind (before : List Event) (e : Event) : Prop where
  parent_eq : e.parent = (openPhases before).head?
  open_of_end : e.body.isEnd = true → openPhases before ≠ []

/-- Every event fits behind those before it. -/
def AllFit (events : List Event) : Prop :=
  ∀ before e behind, events = before ++ e :: behind → FitsBehind before e

theorem allFit_nil : AllFit [] := by
  intro before e behind h
  simp at h

theorem allFit_append_singleton :
    AllFit (events ++ [e]) ↔ AllFit events ∧ FitsBehind events e := by
  constructor
  · intro h
    refine ⟨fun before e' behind heq => h before e' (behind ++ [e]) ?_, h events e [] rfl⟩
    rw [heq, List.append_assoc, List.cons_append]
  · rintro ⟨h, he⟩ before e' behind heq
    rcases List.eq_nil_or_concat behind with rfl | ⟨behind, last, rfl⟩
    · obtain ⟨rfl, hlast⟩ := List.append_inj' heq rfl
      exact List.singleton_inj.1 hlast ▸ he
    · rw [List.concat_eq_append, ← List.cons_append, ← List.append_assoc] at heq
      exact h before e' behind (List.append_inj' heq rfl).1

theorem FitsBehind.isOpen_parent (h : FitsBehind before e) (hparent : e.parent = some i) :
    isOpen before i = true :=
  mem_openPhases.1 (List.mem_of_head? (h.parent_eq ▸ hparent))

namespace AllFit

/-- A phase that is still to be started has not been ended. -/
theorem not_mem_end (h : AllFit events) : ⟨.phaseEnd, some events.length⟩ ∉ events := by
  intro hmem
  obtain ⟨before, behind, heq⟩ := List.append_of_mem hmem
  have hopen := (h before _ behind heq).isOpen_parent rfl
  have hlt := lt_of_mem_openPhases (mem_openPhases.2 hopen)
  rw [heq, List.length_append, List.length_cons] at hlt
  omega

theorem openPhases_append (h : AllFit events) (he : FitsBehind events e) :
    openPhases (events ++ [e]) = phasesBehind events.length (openPhases events) e.body := by
  obtain ⟨body, parent⟩ := e
  cases body with
  | phaseStart name detail => exact openPhases_append_start h.not_mem_end
  | phaseEnd =>
    obtain ⟨i, rest, hopen⟩ := List.exists_cons_of_ne_nil (he.open_of_end rfl)
    have hparent : parent = some i := he.parent_eq.trans (congrArg List.head? hopen)
    rw [hparent, openPhases_append_end hopen, hopen]
    rfl
  | mutation | warning | inspection => exact openPhases_append_other rfl rfl

/-- Each phase that was started is open or has been ended. -/
theorem countP_isStart (h : AllFit events) : events.countP (·.body.isStart) =
    events.countP (·.body.isEnd) + (openPhases events).length := by
  induction events using List.reverseRecOn with
  | nil => rfl
  | append_singleton events e ih =>
    obtain ⟨h, he⟩ := allFit_append_singleton.1 h
    have hold := ih h
    rw [h.openPhases_append he, List.countP_append, List.countP_append, List.countP_singleton,
      List.countP_singleton, hold]
    cases hbody : e.body with
    | phaseStart => simp [EventBody.isStart, EventBody.isEnd, phasesBehind]; omega
    | phaseEnd =>
      have hpos := List.length_pos_of_ne_nil (he.open_of_end (by rw [hbody]; rfl))
      simp [EventBody.isStart, EventBody.isEnd, phasesBehind]
      omega
    | mutation | warning | inspection =>
      simp [EventBody.isStart, EventBody.isEnd, phasesBehind]

end AllFit

/-! ### What the commands keep -/

/-- Every event of the tracer fits, and the tracer has the same phases open as its events. -/
structure Agrees (t : Tracer) : Prop where
  recording : t.recording = true
  allFit : AllFit t.events
  phases_eq : t.phases = (openPhases t.events).map some

namespace Agrees

theorem empty : (Tracer.empty true).Agrees := ⟨rfl, allFit_nil, rfl⟩

theorem innermost_eq (h : t.Agrees) : t.innermost = (openPhases t.events).head? := by
  rw [innermost, h.phases_eq, List.head?_map]
  cases (openPhases t.events).head? <;> rfl

/-- Without an open phase there is nothing to end. -/
theorem endPhase_of_nil (h : t.Agrees) (hnil : openPhases t.events = []) : t.endPhase = t := by
  rw [endPhase, h.phases_eq, hnil, List.map_nil]

theorem endPhase_of_cons (h : t.Agrees) {rest : List Nat}
    (hopen : openPhases t.events = i :: rest) :
    t.endPhase = { t.record .phaseEnd (some i) with phases := rest.map some } := by
  rw [endPhase, h.phases_eq, hopen, List.map_cons]

/-- One more event, in the innermost phase. -/
theorem record (h : t.Agrees) {body : EventBody} {phases : List (Option Nat)}
    (hend : body.isEnd = true → openPhases t.events ≠ [])
    (hphases : phases = (phasesBehind t.events.length (openPhases t.events) body).map some) :
    ({ t.record body (openPhases t.events).head? with phases } : Tracer).Agrees := by
  have he : FitsBehind t.events ⟨body, (openPhases t.events).head?⟩ := ⟨rfl, hend⟩
  have hevents := events_record h.recording body (openPhases t.events).head?
  refine ⟨(recording_record _ _ _).trans h.recording, ?_, ?_⟩
  · rw [hevents]
    exact allFit_append_singleton.2 ⟨h.allFit, he⟩
  · rw [hevents, h.allFit.openPhases_append he]
    exact hphases

/-- One more event that is neither a start nor an end. -/
theorem log (h : t.Agrees) {body : EventBody} (hstart : body.isStart = false)
    (hend : body.isEnd = false) : (t.record body t.innermost).Agrees := by
  have hsame : phasesBehind t.events.length (openPhases t.events) body = openPhases t.events := by
    cases body with
    | phaseStart => cases hstart
    | phaseEnd => cases hend
    | mutation | warning | inspection => rfl
  have heq : t.record body t.innermost =
      { t.record body (openPhases t.events).head? with phases := t.phases } := by
    rw [h.innermost_eq, Tracer.record, if_pos h.recording]
  rw [heq]
  refine h.record (fun hisEnd => ?_) (hsame.symm ▸ h.phases_eq)
  rw [hend] at hisEnd
  cases hisEnd

/-- **A command keeps the agreement.** -/
theorem run (h : t.Agrees) (command : Command) : (command.run t).Agrees := by
  cases command with
  | startPhase name detail =>
    have hid : t.nextId = some t.events.length := if_pos h.recording
    rw [Command.run, startPhase, h.innermost_eq, hid, h.phases_eq]
    exact h.record (fun hend => absurd hend Bool.false_ne_true) rfl
  | endPhase =>
    rw [Command.run]
    cases hopen : openPhases t.events with
    | nil =>
      rw [h.endPhase_of_nil hopen]
      exact h
    | cons i rest =>
      rw [h.endPhase_of_cons hopen]
      have hhead : some i = (openPhases t.events).head? := by rw [hopen, List.head?_cons]
      rw [hhead]
      exact h.record (fun _ => hopen ▸ List.cons_ne_nil _ _) (by rw [hopen]; rfl)
  | logMutation m => exact h.log rfl rfl
  | logWarning message => exact h.log rfl rfl
  | logInspection subject outcome detail => exact h.log rfl rfl

/-- Whatever is asked of a new tracer, it agrees with its events. -/
theorem after (commands : List Command) : (after commands).Agrees := by
  induction commands using List.reverseRecOn with
  | nil => exact .empty
  | append_singleton commands command ih =>
    rw [after_append_singleton]
    exact ih.run command

/-- The event of a command stands in the innermost open phase. -/
theorem events_run (h : t.Agrees) {command : Command}
    (hend : command.body.isEnd = true → openPhases t.events ≠ []) :
    (command.run t).events = t.events ++ [⟨command.body, (openPhases t.events).head?⟩] := by
  cases command with
  | endPhase =>
    obtain ⟨i, rest, hopen⟩ := List.exists_cons_of_ne_nil (hend rfl)
    rw [Command.run, h.endPhase_of_cons hopen, hopen, List.head?_cons]
    exact events_record h.recording _ _
  | _ =>
    rw [← h.innermost_eq]
    exact events_record h.recording _ _

end Agrees

/-! ### Traces -/

/-- The edits are what the events of their kind tell. -/
theorem map_toJson_mutations (t : Tracer) : t.mutations.map Mutation.toJson =
    (t.events.filter (·.body.typeName = "ast_mutation")).map (·.body.metadata) := by
  unfold mutations
  induction t.events with
  | nil => rfl
  | cons e events ih =>
    obtain ⟨body, parent⟩ := e
    cases body with
    | mutation m => simpa [EventBody.typeName, EventBody.metadata] using ih
    | _ => simpa [EventBody.typeName] using ih

/-- The phases in the trace of the tracer are well nested. -/
structure Nested (t : Tracer) : Prop where
  /-- A parent is an earlier event, and the start of a phase. -/
  started : ∀ before e behind i, t.events = before ++ e :: behind → e.parent = some i →
    ∃ name detail parent, before[i]? = some ⟨.phaseStart name detail, parent⟩
  /-- An event has the innermost phase as its parent that is open at the time, or none if none
  is. -/
  parent_eq : ∀ before e behind, t.events = before ++ e :: behind →
    e.parent = (openPhases before).head?
  /-- An end closes the innermost phase that is open at the time. -/
  closes : ∀ before e behind, t.events = before ++ e :: behind → e.body = .phaseEnd →
    ∃ i rest, openPhases before = i :: rest ∧ e.parent = some i ∧ openPhases (before ++ [e]) = rest
  /-- No phase is closed a second time. -/
  closed_once : ∀ before i behind, t.events = before ++ ⟨.phaseEnd, some i⟩ :: behind →
    ⟨.phaseEnd, some i⟩ ∉ before
  /-- When a phase is closed, those that were started later have been closed. -/
  reverse_order : ∀ before i behind j name detail parent,
    t.events = before ++ ⟨.phaseEnd, some i⟩ :: behind → i < j →
    before[j]? = some ⟨.phaseStart name detail, parent⟩ → ⟨.phaseEnd, some j⟩ ∈ before
  /-- The tracer knows which phases are open. -/
  phases_eq : t.phases = (openPhases t.events).map some
  /-- A phase that was started is open, or an end has closed it. -/
  count_eq : t.events.countP (·.body.isStart) =
    t.events.countP (·.body.isEnd) + t.phases.length
  /-- The edits of the tracer are those of its trace. -/
  mutations_eq : t.mutations.map Mutation.toJson =
    (t.events.filter (·.body.typeName = "ast_mutation")).map (·.body.metadata)

theorem Agrees.nested (h : t.Agrees) : t.Nested where
  started before e behind i heq hparent :=
    (isOpen_iff.1 ((h.allFit before e behind heq).isOpen_parent hparent)).1
  parent_eq before e behind heq := (h.allFit before e behind heq).parent_eq
  closes before e behind heq hbody := by
    have hfit := h.allFit before e behind heq
    obtain ⟨i, rest, hopen⟩ := List.exists_cons_of_ne_nil (hfit.open_of_end (by rw [hbody]; rfl))
    have hparent : e.parent = some i := hfit.parent_eq.trans (congrArg List.head? hopen)
    obtain ⟨body, parent⟩ := e
    cases hbody
    cases hparent
    exact ⟨i, rest, hopen, rfl, openPhases_append_end hopen⟩
  closed_once before i behind heq :=
    (isOpen_iff.1 ((h.allFit before _ behind heq).isOpen_parent rfl)).2
  reverse_order before i behind j name detail parent heq hlt hstart := by
    have hhead := (h.allFit before _ behind heq).parent_eq
    by_contra hnot
    have hj : j ∈ openPhases before := mem_openPhases.2 (isOpen_iff.2 ⟨⟨_, _, _, hstart⟩, hnot⟩)
    exact Nat.not_le.2 hlt (le_of_head?_openPhases hhead.symm hj)
  phases_eq := h.phases_eq
  count_eq := by
    rw [h.allFit.countP_isStart, h.phases_eq, List.length_map]
  mutations_eq := t.map_toJson_mutations

/-- **The phases in a trace are well nested**, whatever is asked of a new tracer.  An event of every
command stands in the innermost open phase; only the end of a phase where none is open is no event,
and changes nothing. -/
theorem nested_after (commands : List Command) :
    (after commands).Nested ∧
      (openPhases (after commands).events = [] →
        after (commands ++ [.endPhase]) = after commands) ∧
      ∀ command, (command = .endPhase → openPhases (after commands).events ≠ []) →
        (after (commands ++ [command])).events = (after commands).events ++
          [⟨command.body, (openPhases (after commands).events).head?⟩] := by
  have h := Agrees.after commands
  refine ⟨h.nested, fun hnil => ?_, fun command hopen => ?_⟩
  · rw [after_append_singleton]
    exact h.endPhase_of_nil hnil
  · rw [after_append_singleton]
    exact h.events_run fun hend => hopen (Command.eq_endPhase hend)

end Tracer

namespace Sample

/-- A phase, with the end of another before it. -/
def unbalanced : List Tracer.Command := [.endPhase, .startPhase "Scan" "", .endPhase]

end Sample

namespace Tracer

open Sample

theorem nested_after_unbalanced :
    openPhases (after unbalanced).events = [] ∧
      after (unbalanced ++ [.endPhase]) = after unbalanced ∧
      (after (unbalanced ++ [.logWarning "late"])).events =
        (after unbalanced).events ++ [⟨.warning "late", none⟩] := by
  have hnil : openPhases (after unbalanced).events = [] := by decide
  obtain ⟨-, hend, hlog⟩ := nested_after unbalanced
  refine ⟨hnil, hend hnil, ?_⟩
  have hevents := hlog (.logWarning "late") nofun
  rwa [hnil] at hevents

end Tracer

end ComponentLookup
