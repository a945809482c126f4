import ComponentLookup.Proofs.Program.Exact
import ComponentLookup.Proofs.Rule.Asked
import ComponentLookup.Proofs.Rule.Phases
import ComponentLookup.Proofs.Rule.Registry

/-!
# The phase of a resolution

A resolution opens a phase of its own, and closes it again.  In between the rules run, and any of
them may fail.  As long as each rule leaves the phases open that it has found open, also where it
fails, so does a walk (`Registry.KeepsPhases.walk`).

`Resolver.phases_resolve` : **a resolution leaves the phases of its tracer as they were**, whether
it ends well or with the failure of a rule.  What it adds to the trace begins with the start of its
phase and ends with the end of it, and everything in between belongs to it.
-/

namespace ComponentLookup

open Json

/-! ### Registries -/

namespace Registry

variable {registry : Registry} {kind : String} {rule : Rule} {rules : List (String × Rule)}

theorem mem_of_lookup (h : lookup kind rules = some rule) : (kind, rule) ∈ rules := by
  fun_induction lookup kind rules with
  | case1 => cases h
  | case2 r rest =>
    cases h
    exact List.mem_cons_self
  | case3 k r rest hk ih => exact List.mem_cons_of_mem _ (ih h)

/-- A rule that is found was registered, or is a built-in one. -/
theorem mem_or_builtin_of_find (h : (registry.find kind).1 = some rule) :
    (kind, rule) ∈ registry.rules ∨ ∃ builtin : BuiltinRule, rule = builtin.rule := by
  rw [find_fst, Option.or_eq_some_iff] at h
  rcases h with h | ⟨-, h⟩
  · exact .inl (mem_of_lookup h)
  · right
    split_ifs at h
    rcases Option.or_eq_some_iff.1 h with h | ⟨-, h⟩
    · exact ⟨.runtimeImport, Option.some.inj (Option.ite_none_right_eq_some.1 h).2.symm⟩
    · exact ⟨.renderFunction, Option.some.inj (Option.ite_none_right_eq_some.1 h).2.symm⟩

/-- Every rule that a node can be handed to leaves the phases as they were. -/
def KeepsPhases (registry : Registry) : Prop :=
  ∀ v rule, registry.ruleFor? v = some rule → rule.KeepsPhases

/-- **The registered rules decide**; those that join do their part. -/
theorem keepsPhases_of_rules (h : ∀ entry ∈ registry.rules, entry.2.KeepsPhases) :
    registry.KeepsPhases := by
  intro v rule hrule
  obtain ⟨kind, -, -, hfind⟩ := ruleFor?_eq_some_iff.1 hrule
  rcases mem_or_builtin_of_find hfind with hmem | ⟨builtin, rfl⟩
  · exact h _ hmem
  · exact keepsPhases_builtin builtin

/-! ### Walks -/

/-- The tracer has been used in a walk that began with the given one, and the same phases are
open; the rules that are asked have not changed. -/
structure KeptPhases (registry : Registry) (t : Tracer) (s : RuleState) : Prop where
  ruleFor?_eq : s.registry.ruleFor? = registry.ruleFor?
  used : t.Used s.context.tracer
  phases_eq : s.context.tracer.phases = t.phases

variable {t : Tracer} {s : RuleState}

theorem KeptPhases.dispatch (hs : registry.KeptPhases t s) (h : registry.KeepsPhases) (v : Json) :
    registry.KeptPhases t (dispatch v s).state := by
  cases hrule : s.registry.ruleFor? v with
  | none =>
    obtain ⟨registry', hsame, heq⟩ := dispatch_of_ruleFor?_eq_none hrule
    rw [heq]
    exact ⟨hsame.trans hs.ruleFor?_eq, hs.used, hs.phases_eq⟩
  | some rule =>
    obtain ⟨registry', hsame, heq⟩ := dispatch_of_ruleFor?_eq_some hrule
    have hv := isNode_of_ruleFor? hrule
    have hkeeps := h v rule (hs.ruleFor?_eq ▸ hrule)
    rw [heq]
    exact ⟨hsame.trans hs.ruleFor?_eq, hs.used.trans (hkeeps.used v s.context hv),
      (hkeeps.phases_eq v s.context hv).trans hs.phases_eq⟩

/-- **A walk leaves the phases as they were**, also if it fails. -/
theorem KeepsPhases.walk (h : registry.KeepsPhases) (v : Json) (ctx : Context) :
    registry.KeptPhases ctx.tracer (walk (ruleVisitor registry) v ⟨ctx, registry⟩).state := by
  have hkeeps : (ruleVisitor registry).Keeps (registry.KeptPhases ctx.tracer) :=
    ⟨fun _ w _ hs => hs.dispatch h w, fun _ _ _ hs => hs⟩
  exact hkeeps.walk v ⟨rfl, .refl _, rfl⟩

end Registry

/-! ### Resolutions -/

namespace Tracer

variable {t t' : Tracer} {name detail : String}

theorem phases_endPhase_of_startPhase (h : t'.phases = (t.startPhase name detail).phases) :
    t'.endPhase.phases = t.phases := by
  rw [endPhase, h, startPhase]

section

variable (h : t.recording = true) (name detail : String)
include h

theorem events_startPhase :
    (t.startPhase name detail).events = t.events ++ [⟨.phaseStart name detail, t.innermost⟩] :=
  events_record h _ _

theorem phases_startPhase :
    (t.startPhase name detail).phases = some t.events.length :: t.phases :=
  congrArg (· :: t.phases) (if_pos h)

theorem length_events_startPhase :
    (t.startPhase name detail).events.length = t.events.length + 1 := by
  rw [events_startPhase h, List.length_append, List.length_singleton]

theorem innermost_startPhase :
    (t.startPhase name detail).innermost = some t.events.length := by
  rw [innermost, phases_startPhase h, List.head?_cons, Option.join_some]

theorem PhasesBegun.startPhase (hbegun : t.PhasesBegun) :
    (t.startPhase name detail).PhasesBegun := by
  intro i hi
  rw [phases_startPhase h, List.mem_cons, Option.some.injEq] at hi
  rw [length_events_startPhase h]
  rcases hi with rfl | hi
  · exact Nat.lt_succ_self _
  · exact Nat.lt_succ_of_lt (hbegun i hi)

end

/-- **A phase that is closed after some operations** encloses all their events, if these have left
the same phases open. -/
theorem events_endPhase_of_startPhase (hrec : t.recording = true) (hbegun : t.PhasesBegun)
    (hused : (t.startPhase name detail).Used t')
    (hphases : t'.phases = (t.startPhase name detail).phases) :
    ∃ inner, t'.endPhase.events =
        t.events ++ ⟨.phaseStart name detail, t.innermost⟩ ::
          (inner ++ [⟨.phaseEnd, some t.events.length⟩]) ∧
      ∀ e ∈ inner, IsBetween t.events.length t'.endPhase.events.length e.parent := by
  have hrec' : (t.startPhase name detail).recording = true :=
    ((Operation.startPhase name detail).recording t).trans hrec
  obtain ⟨inner, hevents, hinner⟩ :=
    hused.events_of_phases_eq hrec' (hbegun.startPhase hrec name detail) hphases
  have hend : t'.endPhase.events = t'.events ++ [⟨.phaseEnd, some t.events.length⟩] := by
    rw [endPhase, hphases, phases_startPhase hrec]
    exact events_record (hused.recording.trans hrec') _ _
  have hall : t'.endPhase.events = t.events ++ ⟨.phaseStart name detail, t.innermost⟩ ::
      (inner ++ [⟨.phaseEnd, some t.events.length⟩]) := by
    rw [hend, hevents, events_startPhase hrec, List.append_assoc, List.append_assoc,
      List.singleton_append]
  refine ⟨inner, hall, fun e he => ?_⟩
  have hlen : t'.events.length + 1 = t'.endPhase.events.length := by
    rw [hend, List.length_append, List.length_singleton]
  have hlt : t.events.length < t'.endPhase.events.length := by
    rw [hall, List.length_append, List.length_cons]
    exact Nat.lt_add_of_pos_right (Nat.succ_pos _)
  rw [length_events_startPhase hrec, innermost_startPhase hrec] at hinner
  -- an event stands in the phase that was closed last, or in one that was opened behind it
  rcases hinner e he with hparent | ⟨i, hparent, hi, hi'⟩
  · exact ⟨_, hparent, Nat.le_refl _, hlt⟩
  · exact ⟨i, hparent, Nat.le_of_succ_le hi, by omega⟩

end Tracer

namespace Resolver

/-- **A resolution leaves the phases of its tracer as they were.**  Under rules that do, and the
built-in rules are such, this holds of every node and every tracer, whether the resolution ends well
or with the failure of a rule.  On a tracer that records, what is added begins with the start of the
phase of the resolution and ends with the end of this phase, and every event in between has one of
the added events as its parent. -/
theorem phases_resolve :
    (∀ builtin : BuiltinRule, builtin.rule.KeepsPhases) ∧
    ∀ (r : Resolver) (registry : Registry) (tree : Json),
      (∀ entry ∈ registry.rules, entry.2.KeepsPhases) → tree.isNode = true →
      ∃ ctx, (r.resolve registry tree).resolver.last = some ctx ∧
        (r.resolve registry tree).resolver.shared = r.shared.map (fun _ => ctx.tracer) ∧
        ctx.tracer.phases = r.nextTracer.phases ∧
        (r.nextTracer.recording = true → r.nextTracer.PhasesBegun →
          ∃ inner, ctx.tracer.events = r.nextTracer.events ++
              ⟨.phaseStart "Resolve Components" "Rewriting missing component assertions",
                r.nextTracer.innermost⟩ ::
              (inner ++ [⟨.phaseEnd, some r.nextTracer.events.length⟩]) ∧
            ∀ e ∈ inner, Tracer.IsBetween r.nextTracer.events.length ctx.tracer.events.length
              e.parent) := by
  refine ⟨keepsPhases_builtin, fun r registry tree hrules htree => ?_⟩
  set opened := r.nextTracer.startPhase "Resolve Components"
    "Rewriting missing component assertions" with hopened
  have hwalk := (Registry.keepsPhases_of_rules hrules).walk tree (Context.fresh r.config opened)
  set walked := walk (ruleVisitor registry) tree ⟨Context.fresh r.config opened, registry⟩
    with hwalked
  -- the phase is closed on both ways out of the walk
  have htracer : (applyRules r.config r.nextTracer registry tree).context.tracer =
      walked.state.context.tracer.endPhase := by
    simp only [applyRules, ← hopened, ← hwalked]
    split <;> rfl
  refine ⟨(applyRules r.config r.nextTracer registry tree).context, ?_, ?_, ?_, ?_⟩
  · rw [resolve, if_pos htree]
  · rw [resolve, if_pos htree]
  · rw [htracer]
    exact Tracer.phases_endPhase_of_startPhase hwalk.phases_eq
  · intro hrec hbegun
    rw [htracer]
    exact Tracer.events_endPhase_of_startPhase hrec hbegun hwalk.used hwalk.phases_eq

end Resolver

/-! ### A sample -/

namespace Sample

/-- Warns inside a phase of its own, and fails. -/
def faulty : Rule where
  name := "faulty"
  apply v ctx :=
    { node := v
      context := ((ctx.traced (·.startPhase "Check" "")).traced
        (·.logWarning "unsupported")).traced (·.endPhase)
      outcome := .error .noFields }
  growth := 0

theorem keepsPhases_faulty : faulty.KeepsPhases where
  used _ ctx _ :=
    (((Tracer.Used.refl ctx.tracer).step (.startPhase "Check" "")).step
      (.logWarning "unsupported")).step .endPhase
  phases_eq _ _ _ := Tracer.phases_endPhase_of_startPhase (Tracer.phases_record _ _ _)

/-- A registry in which the faulty rule handles one type of statement. -/
def faultyRegistry : Registry := Registry.initial.register "DebuggerStatement" faulty

/-- A tracer with two phases open. -/
def shared : Tracer := ((Tracer.empty true).startPhase "Build" "").startPhase "Page" ""

/-- An entry function, and behind it a statement of that type in a program inside the program. -/
def debugged : Json :=
  program [function "MDXContent" [function "_createMdxContent" [assertion "Card"]],
    program [.obj [("type", .str "DebuggerStatement")]], helper]

end Sample

open Sample in
theorem phases_resolve_debugged :
    (∀ entry ∈ faultyRegistry.rules, entry.2.KeepsPhases) ∧ debugged.isNode = true ∧
      shared.recording = true ∧ shared.PhasesBegun ∧
      let resolution := (Resolver.new .default (some shared)).resolve faultyRegistry debugged
      resolution.failure = some .noFields ∧
      ∃ t, resolution.resolver.shared = some t ∧ t.phases = [some 1, some 0] ∧
        ∃ inner, t.events = shared.events ++
            ⟨.phaseStart "Resolve Components" "Rewriting missing component assertions", some 1⟩ ::
            (inner ++ [⟨.phaseEnd, some 2⟩]) ∧
          ∀ e ∈ inner, Tracer.IsBetween 2 t.events.length e.parent := by
  have hrules : ∀ entry ∈ faultyRegistry.rules, entry.2.KeepsPhases :=
    List.forall_mem_singleton.2 keepsPhases_faulty
  have hnode : debugged.isNode = true := by decide
  have hbegun : shared.PhasesBegun := Tracer.phasesBegun_of_used
    (((Tracer.Used.refl _).step (.startPhase "Build" "")).step (.startPhase "Page" ""))
  obtain ⟨ctx, -, hshared, hphases, hevents⟩ := Resolver.phases_resolve.2
    (Resolver.new .default (some shared)) faultyRegistry debugged hrules hnode
  exact ⟨hrules, hnode, rfl, hbegun, by decide, ctx.tracer, hshared, hphases, hevents rfl hbegun⟩

end ComponentLookup
