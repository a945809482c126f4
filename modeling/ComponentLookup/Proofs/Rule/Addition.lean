import ComponentLookup.Proofs.Rule.Dispatch

/-!
# What a rule adds to a context

A built-in rule never reads the counters, the trace or the log that it writes to.  So what it adds
to them is the same in every context with the same names (`adds_handled`), and it goes behind what
is there already.

An `Addition` consists of counts, events and log records.  Its events are placed as in a trace of
their own, and come to stand in the phase around when they are added to a tracer
(`Tracer.extend`):

* `Tracer.extend_extend` : two additions, one after the other, are one addition, in which the events
  of the second one are moved behind those of the first.
* `Tracer.endPhase_extend_startPhase` : an addition between the start and the end of a phase is an
  addition too.
-/

namespace ComponentLookup

open Json

/-! ### Events behind other events -/

namespace Event

/-- The event in another trace: positions are moved by the offset, and what stands in no phase comes
to stand in the given one. -/
def relocate (offset : Nat) (around : Option Nat) (e : Event) : Event :=
  { e with parent := match e.parent with
      | none => around
      | some i => some (i + offset) }

variable (m n i : Nat) (around : Option Nat) (body : EventBody) (e : Event)

@[simp] theorem relocate_mk_none : relocate n around ⟨body, none⟩ = ⟨body, around⟩ := rfl

@[simp] theorem relocate_mk_some :
    relocate n around ⟨body, some i⟩ = ⟨body, some (i + n)⟩ := rfl

@[simp] theorem relocate_zero : e.relocate 0 none = e := by
  obtain ⟨body, parent⟩ := e
  cases parent <;> rfl

theorem relocate_relocate_none :
    (e.relocate m none).relocate n around = e.relocate (n + m) around := by
  obtain ⟨body, parent⟩ := e
  cases parent with
  | none => rfl
  | some i => simp only [relocate_mk_some, Nat.add_assoc, Nat.add_comm m]

theorem relocate_relocate_some :
    (e.relocate m (some i)).relocate n around = e.relocate (n + m) (some (i + n)) := by
  obtain ⟨body, parent⟩ := e
  cases parent with
  | none => rfl
  | some j => simp only [relocate_mk_some, Nat.add_assoc, Nat.add_comm m]

end Event

namespace Tracer

variable (t : Tracer) (es es' : List Event)

/-- Adds events that are placed as in a trace of their own, inside the innermost phase. -/
def extend (events : List Event) : Tracer :=
  if t.recording then
    { t with events := t.events ++ events.map (Event.relocate t.events.length t.innermost) }
  else t

theorem extend_of_recording (h : t.recording = true) :
    t.extend es =
      { t with events := t.events ++ es.map (Event.relocate t.events.length t.innermost) } :=
  if_pos h

@[simp] theorem extend_nil : t.extend [] = t := by
  unfold extend
  split_ifs <;> simp

/-- Into an empty trace the events go as they are. -/
theorem extend_empty (recording : Bool) :
    (empty recording).extend es = ⟨recording, if recording then es else [], []⟩ := by
  cases recording with
  | false => rfl
  | true =>
    have hself : es.map (Event.relocate 0 none) = es :=
      (List.map_congr_left fun e _ => e.relocate_zero).trans (List.map_id' es)
    rw [extend_of_recording _ _ rfl, if_pos rfl]
    exact congrArg (Tracer.mk true · []) hself

/-- **Two additions are one**, with the second one moved behind the first. -/
theorem extend_extend :
    (t.extend es).extend es' = t.extend (es ++ es'.map (Event.relocate es.length none)) := by
  by_cases h : t.recording = true
  · simp only [extend, h, if_true, innermost, List.length_append, List.length_map,
      List.map_append, List.map_map, List.append_assoc, Function.comp_def,
      Event.relocate_relocate_none]
  · simp only [extend, if_neg h]

/-- A single event belongs to the innermost phase. -/
theorem record_eq_extend (body : EventBody) :
    t.record body t.innermost = t.extend [{ body, parent := none }] := by
  unfold record extend
  split_ifs <;> rfl

/-- The events of a phase with the given events inside. -/
def inPhase (name detail : String) (events : List Event) : List Event :=
  { body := .phaseStart name detail, parent := none } ::
    (events.map (Event.relocate 1 (some 0)) ++ [{ body := .phaseEnd, parent := some 0 }])

/-- **A phase with an addition inside is an addition**; it leaves open what was open before. -/
theorem endPhase_extend_startPhase (name detail : String) :
    ((t.startPhase name detail).extend es).endPhase = t.extend (inPhase name detail es) := by
  obtain ⟨recording, events, phases⟩ := t
  cases recording with
  | false => rfl
  | true =>
    -- the phase is opened by the event behind those of the tracer
    simp only [startPhase, nextId, record, extend, endPhase, innermost, inPhase, if_true,
      List.length_append, List.length_singleton, List.map_cons, List.map_append, List.map_nil,
      List.map_map, List.append_assoc, List.singleton_append, List.head?_cons, Option.join_some,
      Function.comp_def, Event.relocate_mk_none, Event.relocate_mk_some,
      Event.relocate_relocate_some, Nat.zero_add]
    rfl

end Tracer

/-! ### Additions -/

/-- The two configurations have the same names. -/
structure Config.SameNames (c c' : Config) : Prop where
  runtimeSuffix : c.runtimeSuffix = c'.runtimeSuffix
  resolverImportName : c.resolverImportName = c'.resolverImportName
  resolverLocalName : c.resolverLocalName = c'.resolverLocalName
  renderEntryName : c.renderEntryName = c'.renderEntryName
  renderBodyName : c.renderBodyName = c'.renderBodyName
  missingReferenceName : c.missingReferenceName = c'.missingReferenceName

theorem Config.SameNames.refl (c : Config) : SameNames c c := ⟨rfl, rfl, rfl, rfl, rfl, rfl⟩

/-- What is added to a context: amounts to its counters, events, which are placed as in a trace of
their own, and messages. -/
structure Addition where
  counts : List (String × Int) := []
  events : List Event := []
  log : List Log.Record := []

/-- One addition behind another. -/
instance : Append Addition where
  append a b :=
    { counts := a.counts ++ b.counts
      events := a.events ++ b.events.map (Event.relocate a.events.length none)
      log := a.log ++ b.log }

/-- Adds amounts to counters one after another. -/
def Stats.countAll (stats : Stats) (counts : List (String × Int)) : Stats :=
  counts.foldl (fun stats entry => stats.count entry.1 entry.2) stats

namespace Context

/-- The context with an addition. -/
def add (ctx : Context) (a : Addition) : Context :=
  { ctx with
    stats := ctx.stats.countAll a.counts
    tracer := ctx.tracer.extend a.events
    log := ctx.log ++ a.log }

theorem add_append (ctx : Context) (a b : Addition) : ctx.add (a ++ b) = (ctx.add a).add b := by
  have hevents := ctx.tracer.extend_extend a.events b.events
  have hcounts : ctx.stats.countAll (a.counts ++ b.counts) =
      (ctx.stats.countAll a.counts).countAll b.counts := List.foldl_append
  simp only [add, hevents, ← hcounts, List.append_assoc]
  rfl

/-- The change of a context is the same addition wherever the names are those of the
configuration. -/
def Adds (config : Config) (f : Context → Context) : Prop :=
  ∃ a : Addition, ∀ ctx, ctx.config.SameNames config → f ctx = ctx.add a

namespace Adds

variable {config : Config} {f g : Context → Context}

theorem congr (hf : Adds config f) (h : ∀ ctx, ctx.config.SameNames config → g ctx = f ctx) :
    Adds config g := by
  obtain ⟨a, ha⟩ := hf
  exact ⟨a, fun ctx hctx => (h ctx hctx).trans (ha ctx hctx)⟩

variable (config) in
theorem id : Adds config fun ctx => ctx :=
  ⟨{}, fun ctx _ => by simp [add, Stats.countAll]⟩

/-- What two changes add one after another is an addition. -/
theorem comp (hg : Adds config g) (hf : Adds config f) : Adds config fun ctx => g (f ctx) := by
  obtain ⟨a, ha⟩ := hf
  obtain ⟨b, hb⟩ := hg
  refine ⟨a ++ b, fun ctx hctx => ?_⟩
  simp only [ha ctx hctx, hb (ctx.add a) hctx, add_append]

variable (config)

theorem count (key : String) (amount : Int) : Adds config (·.count key amount) :=
  ⟨{ counts := [(key, amount)] }, fun ctx _ => by simp [add, Context.count, Stats.countAll]⟩

theorem report (level : Log.Level) (message : String) : Adds config (·.report level message) :=
  ⟨{ log := [{ level, message }] }, fun ctx _ => by simp [add, Context.report, Stats.countAll]⟩

/-- An event that is recorded in the innermost phase. -/
theorem record (body : EventBody) :
    Adds config (·.traced fun t => t.record body t.innermost) :=
  ⟨{ events := [{ body, parent := none }] }, fun ctx _ => by
    simp [add, traced, Stats.countAll, Tracer.record_eq_extend]⟩

theorem logMutation (m : Mutation) : Adds config (·.traced (·.logMutation m)) :=
  record config (.mutation m)

theorem logWarning (message : String) : Adds config (·.traced (·.logWarning message)) :=
  record config (.warning message)

theorem logInspection (subject outcome detail : String) :
    Adds config (·.traced (·.logInspection subject outcome detail)) :=
  record config (.inspection subject outcome detail)

variable {config}

/-- What is added between the start and the end of a phase. -/
theorem inPhase (hf : Adds config f) (name detail : String) :
    Adds config fun ctx => (f (ctx.traced (·.startPhase name detail))).traced (·.endPhase) := by
  obtain ⟨a, ha⟩ := hf
  refine ⟨{ a with events := Tracer.inPhase name detail a.events }, fun ctx hctx => ?_⟩
  have hinside : f (ctx.traced (·.startPhase name detail)) =
      (ctx.traced (·.startPhase name detail)).add a := ha _ hctx
  have hphase := ctx.tracer.endPhase_extend_startPhase a.events name detail
  simp only [hinside]
  simp only [add, traced, hphase]

end Adds

end Context

/-! ### Rules -/

section

variable {config : Config}

namespace ReferenceScan

/-- A statement ends the scan in every context, or in every context it becomes the same and adds the
same. -/
theorem adds_statement? (config : Config) (index : Nat) (s : Json) :
    (∀ ctx : Context, ctx.config.SameNames config → statement? index s ctx = none) ∨
      ∃ s' n, ∃ a : Addition, ∀ ctx : Context, ctx.config.SameNames config →
        statement? index s ctx = some (s', ctx.add a, n) := by
  unfold statement?
  -- which way the statement goes is decided by the statement alone
  split_ifs with hv hk
  · obtain ⟨a, ha⟩ := Context.Adds.id config
    exact .inr ⟨s, 0, a, fun ctx hctx => by rw [← ha ctx hctx]⟩
  · obtain ⟨a, ha⟩ := (Context.Adds.logMutation config
      { nodeType := "VariableDeclaration", before := Node.render s
        after := Node.render (relax s), index := some index }).comp
      (Context.Adds.count config "declarations_relaxed" 1)
    exact .inr ⟨relax s, 0, a, fun ctx hctx => by rw [← ha ctx hctx]⟩
  · cases hc : Node.missingReferenceCheck? s with
    | none => exact .inl fun _ _ => rfl
    | some check =>
      cases hm : Node.identifierCall? check.expression with
      | none =>
        obtain ⟨a, ha⟩ := Context.Adds.logInspection config (Node.render s) "unchanged"
          "consequent is not an identifier call"
        exact .inr ⟨s, 0, a, fun ctx hctx => by rw [← ha ctx hctx]; simp [hm]⟩
      | some m =>
        obtain ⟨a, ha⟩ := Context.Adds.logMutation config
          { nodeType := "IfStatement", before := Node.render s
            after := Node.render (resolve config.resolverLocalName check m), index := some index }
        refine .inr ⟨resolve config.resolverLocalName check m, 1, a, fun ctx hctx => ?_⟩
        rw [← ha ctx hctx]
        simp [hm, hctx.resolverLocalName]

theorem adds_scan (config : Config) (index : Nat) (body : List Json) :
    ∃ body' n, ∃ a : Addition, ∀ ctx : Context, ctx.config.SameNames config →
      scan index body ctx = (body', ctx.add a, n) := by
  induction body generalizing index with
  | nil =>
    obtain ⟨a, ha⟩ := Context.Adds.id config
    exact ⟨[], 0, a, fun ctx hctx => by rw [← ha ctx hctx]; rfl⟩
  | cons s rest ih =>
    -- the scan ends at the same statement in every context
    rcases adds_statement? config index s with hs | ⟨s', n, a, hs⟩
    · obtain ⟨a, ha⟩ := Context.Adds.id config
      exact ⟨s :: rest, 0, a, fun ctx hctx => by rw [← ha ctx hctx]; simp [scan, hs ctx hctx]⟩
    · obtain ⟨rest', m, b, hrest⟩ := ih (index + 1)
      refine ⟨s' :: rest', n + m, a ++ b, fun ctx hctx => ?_⟩
      simp only [scan, hs ctx hctx, hrest (ctx.add a) hctx, Context.add_append]

theorem adds_statements (config : Config) (body : List Json) :
    Context.Adds config fun ctx => (statements body ctx).2.1 := by
  obtain ⟨body', n, a, hscan⟩ := adds_scan config 0 body
  have hf : Context.Adds config fun ctx => (scan 0 body ctx).2.1 :=
    ⟨a, fun ctx hctx => by simp only [hscan ctx hctx]⟩
  refine ((Context.Adds.count config "checks_rewritten" n).comp hf).congr fun ctx hctx => ?_
  simp only [statements, hscan ctx hctx]

end ReferenceScan

theorem adds_applyToEntry (config : Config) {v : Json} (hv : v.isNode = true) (name : String) :
    Context.Adds config fun ctx => (RenderFunction.applyToEntry v name ctx).context := by
  cases hb : Program.renderBody? v config.renderBodyName with
  | none =>
    refine ((Context.Adds.logWarning config
        ("Missing '" ++ config.renderBodyName ++ "' in '" ++ name ++ "'")).comp
      (Context.Adds.report config .warning ("'" ++ name ++ "' has no nested '" ++
        config.renderBodyName ++ "' function; left unchanged."))).congr fun ctx hctx => ?_
    rw [← hctx.renderBodyName] at hb ⊢
    exact congrArg RuleReply.context (Program.applyToEntry_of_none hv name hb)
  | some result =>
    obtain ⟨body, inner⟩ := result
    refine ((ReferenceScan.adds_statements config inner).inPhase "Component References"
      ("Rewriting '" ++ config.renderBodyName ++ "'")).congr fun ctx hctx => ?_
    rw [← hctx.renderBodyName] at hb ⊢
    exact congrArg RuleReply.context (Program.applyToEntry_of_some hv name hb)

theorem adds_renderFunction (config : Config) {v : Json} (hv : v.isNode = true) :
    Context.Adds config fun ctx => (RenderFunction.apply v ctx).context := by
  unfold RenderFunction.apply
  cases Node.functionName? v with
  | none => exact .id config
  | some name =>
    by_cases hentry : name = config.renderEntryName
    · refine (adds_applyToEntry config hv name).congr fun ctx hctx => ?_
      simp only [if_pos (hentry.trans hctx.renderEntryName.symm)]
    · by_cases hhelper : name = config.missingReferenceName
      · refine ((Context.Adds.logMutation config
            { nodeType := "FunctionDeclaration", before := "function " ++ name ++ "(...)"
              after := "", index := none }).comp
          (Context.Adds.count config "helpers_removed" 1)).congr fun ctx hctx => ?_
        simp only [hctx.renderEntryName, hctx.missingReferenceName, if_neg hentry, if_pos hhelper]
      · refine (Context.Adds.id config).congr fun ctx hctx => ?_
        simp only [hctx.renderEntryName, hctx.missingReferenceName, if_neg hentry, if_neg hhelper]

theorem adds_runtimeImport (config : Config) {v : Json} (hv : v.isNode = true) :
    Context.Adds config fun ctx => (RuntimeImport.apply v ctx).context := by
  unfold RuntimeImport.apply
  rw [Program.importSource_eq hv]
  cases ((v.get? "source").bind (·.get? "value")).bind text? with
  | none => exact .id config
  | some source =>
    by_cases hends : RuntimeImport.endsWith source config.runtimeSuffix = true
    · cases hs : (v.get? "specifiers").bind items? with
      | none =>
        refine (Context.Adds.id config).congr fun ctx hctx => ?_
        simp only [hctx.runtimeSuffix, if_pos hends]
      | some items =>
        obtain ⟨specifiers, hget, hi⟩ := Option.bind_eq_some_iff.1 hs
        rw [items?_eq_some_iff.1 hi] at hget
        cases hb : items.any (Node.bindsLocal config.resolverLocalName) with
        | true =>
          refine (Context.Adds.logInspection config source "unchanged"
            ("'" ++ config.resolverLocalName ++ "' already imported")).congr fun ctx hctx => ?_
          simp only [hctx.runtimeSuffix, hctx.resolverLocalName, if_pos hends,
            Program.importsLocal_eq hget, hb]
        | false =>
          refine ((Context.Adds.logMutation config
              { nodeType := "ImportDeclaration", before := Node.render v
                after := Node.render (RuntimeImport.addSpecifier config v items)
                index := none }).comp
            (Context.Adds.count config "imports_augmented" 1)).congr fun ctx hctx => ?_
          simp only [hctx.runtimeSuffix, hctx.resolverLocalName, if_pos hends,
            Program.importsLocal_eq hget, hb, RuntimeImport.addSpecifier,
            hctx.resolverImportName]
    · refine (Context.Adds.id config).congr fun ctx hctx => ?_
      simp only [hctx.runtimeSuffix, if_neg hends]

/-- **What a rule adds does not depend on the context**, its names apart. -/
theorem adds_handled (config : Config) {v : Json} (hv : v.isNode = true) :
    Context.Adds config fun ctx => (handled v ctx).context := by
  unfold handled
  split_ifs
  · exact adds_runtimeImport config hv
  · exact adds_renderFunction config hv
  · exact .id config

end

end ComponentLookup
