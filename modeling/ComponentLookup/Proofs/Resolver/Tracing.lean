import ComponentLookup.Proofs.Engine.Outcome
import ComponentLookup.Proofs.Resolver.Session

/-!
# Tracing only looks on

No rule asks what its tracer holds.  So what a resolver makes of a value, what it counts and what it
logs does not depend on whether a trace is kept, nor on the tracer that it was given
(`Resolver.resolve_tracing`), and neither does the outcome of a job (`Engine.run_tracing`).  A
tracer that does not record stays empty however many values come (`Session.silent_run`).

`tracing_looks_on` puts the three together.
-/

namespace ComponentLookup

open Json Resolver

theorem Config.SameNames.withTrace (config : Config) (trace : Bool) :
    { config with trace }.SameNames config := ⟨rfl, rfl, rfl, rfl, rfl, rfl⟩

/-! ### Jobs -/

namespace Engine

variable {config config' : Config} {registry : Registry} {v : Json} {a : Addition}

/-- The report of a program is made of what its resolution makes and adds. -/
theorem run_of_makes (ha : Makes config v a) (hp : v.isKind "Program" = true)
    (hnames : config'.SameNames config) (h : registry.OnlyBuiltins) :
    ∃ registry' : Registry, registry'.OnlyBuiltins ∧
      let ctx := (Resolver.new config' none).finished a
      run config' registry v =
        { report := .ok
            { tree := Program.resolvedRoot config v, stats := ctx.stats
              trace := ctx.tracer.toJson }
          log := ctx.log ++ [{ level := .info, message := summary ctx.stats }]
          registry := registry' } := by
  obtain ⟨registry', hregistry', hresolve⟩ := ha (.new config' none) registry hnames h
  exact ⟨registry', hregistry', run_of_resolve hp hresolve⟩

/-- **The outcome of a job does not depend on whether a trace is kept**, the trace apart. -/
theorem run_tracing (config : Config) (trace : Bool) {registry registry' : Registry}
    (h : registry.OnlyBuiltins) (h' : registry'.OnlyBuiltins) (hd : v.DistinctKeys) :
    ∃ report report' : Report,
      (run config registry v).report = .ok report ∧
      (run { config with trace } registry' v).report = .ok report' ∧
      report.success = report'.success ∧ report.errors = report'.errors ∧
      report.tree = report'.tree ∧ report.stats = report'.stats ∧
      report.resolvedChecks = report'.resolvedChecks ∧
      (run config registry v).log = (run { config with trace } registry' v).log ∧
      (config.trace = false → report.trace = []) := by
  by_cases hp : v.isKind "Program" = true
  · obtain ⟨a, ha⟩ := exists_makes config (isNode_of_isKind hp) hd
    obtain ⟨_, -, hrun⟩ := run_of_makes ha hp (.refl config) h
    obtain ⟨_, -, hrun'⟩ := run_of_makes ha hp (.withTrace config trace) h'
    rw [hrun, hrun']
    refine ⟨_, _, rfl, rfl, rfl, rfl, rfl, rfl, rfl, rfl, fun htrace => ?_⟩
    have hevents : ((Resolver.new config none).finished a).tracer.events = [] :=
      (events_finished config none a).trans (if_neg (ne_true_of_eq_false htrace))
    exact congrArg (List.map Event.toJson) hevents
  · simp only [run, if_neg hp]
    exact ⟨_, _, rfl, rfl, rfl, rfl, rfl, rfl, rfl, rfl, fun _ => rfl⟩

end Engine

/-! ### Resolutions -/

namespace Resolver

variable {config : Config} {registry registry' : Registry} {v : Json} {a : Addition}

/-- **What a resolver makes of a value does not depend on whether a trace is kept**, nor on the
tracer that it was given. -/
theorem resolve_tracing (r r' : Resolver) {trace : Bool} (h : registry.OnlyBuiltins)
    (h' : registry'.OnlyBuiltins) (hr : r'.config = { r.config with trace })
    (hd : v.DistinctKeys) :
    (r.resolve registry v).failure = none ∧ (r'.resolve registry' v).failure = none ∧
      (r.resolve registry v).tree = (r'.resolve registry' v).tree ∧
      (r.resolve registry v).log = (r'.resolve registry' v).log ∧
      (v.isNode = true → ∃ ctx ctx' : Context, (r.resolve registry v).resolver.last = some ctx ∧
        (r'.resolve registry' v).resolver.last = some ctx' ∧ ctx.stats = ctx'.stats) := by
  by_cases hv : v.isNode = true
  · obtain ⟨a, ha⟩ := exists_makes r.config hv hd
    obtain ⟨_, -, hresolve⟩ := ha r registry (.refl r.config) h
    obtain ⟨_, -, hresolve'⟩ := ha r' registry' (hr ▸ .withTrace r.config trace) h'
    rw [hresolve, hresolve']
    exact ⟨rfl, rfl, rfl, rfl, fun _ => ⟨_, _, rfl, rfl, rfl⟩⟩
  · rw [resolve_of_not_isNode r hv, resolve_of_not_isNode r' hv]
    exact ⟨rfl, rfl, rfl, rfl, fun hnode => absurd hnode hv⟩

end Resolver

/-! ### Tracers that do not record -/

/-- Nothing has been recorded, and nothing will be. -/
def Tracer.IsSilent (t : Tracer) : Prop := t.recording = false ∧ t.events = []

namespace Session

variable {config : Config} {s : Session} {v : Json} {vs : List Json}

/-- The tracers that the session shows, and the one that it uses next, are silent. -/
structure IsSilent (s : Session) : Prop where
  nextTracer : s.resolver.nextTracer.IsSilent
  last : ∀ ctx, s.resolver.last = some ctx → ctx.tracer.IsSilent

theorem silent_step (hs : s.Under config) (hd : v.DistinctKeys) (h : s.IsSilent) :
    (s.step v).IsSilent := by
  by_cases hv : v.isNode = true
  · obtain ⟨a, ha⟩ := exists_makes config hv hd
    obtain ⟨_, -, hresolve⟩ := ha s.resolver s.registry (sameNames hs) hs.onlyBuiltins
    -- the addition is lost on a tracer that does not record
    have htracer : (s.resolver.finished a).tracer = s.resolver.nextTracer := by
      rw [finished, Tracer.extend, h.nextTracer.1]
      rfl
    rw [step, next, hresolve, htracer]
    refine ⟨?_, fun ctx hctx => ?_⟩
    · cases hshared : s.resolver.shared with
      | none =>
        have hnext := h.nextTracer
        rw [nextTracer, hshared] at hnext
        exact hnext
      | some t => exact h.nextTracer
    · cases hctx
      rw [htracer]
      exact h.nextTracer
  · rwa [step_of_not_isNode s hv]

/-- **A tracer that does not record stays empty**, however many values come. -/
theorem silent_run (hs : s.Under config) (hvs : ∀ v ∈ vs, v.DistinctKeys) (h : s.IsSilent) :
    (s.run vs).IsSilent := by
  induction vs generalizing s with
  | nil => exact h
  | cons v vs ih =>
    obtain ⟨hd, hvs⟩ := List.forall_mem_cons.1 hvs
    exact ih (under_step hs hd) hvs (silent_step hs hd h)

end Session

/-- **Tracing only looks on.**  Two resolvers and two jobs whose configurations differ in `trace`
have the same outcome, whatever tracers there are; and where the tracer is one that does not record,
it shows nothing after any number of values. -/
theorem tracing_looks_on (config : Config) (trace : Bool) {registry registry' : Registry}
    (h : registry.OnlyBuiltins) (h' : registry'.OnlyBuiltins) :
    (∀ v : Json, v.DistinctKeys →
      (∀ r r' : Resolver, r.config = config → r'.config = { config with trace } →
        (r.resolve registry v).failure = none ∧ (r'.resolve registry' v).failure = none ∧
        (r.resolve registry v).tree = (r'.resolve registry' v).tree ∧
        (r.resolve registry v).log = (r'.resolve registry' v).log ∧
        (v.isNode = true → ∃ ctx ctx' : Context,
          (r.resolve registry v).resolver.last = some ctx ∧
          (r'.resolve registry' v).resolver.last = some ctx' ∧ ctx.stats = ctx'.stats)) ∧
      ∃ report report' : Report,
        (Engine.run config registry v).report = .ok report ∧
        (Engine.run { config with trace } registry' v).report = .ok report' ∧
        report.success = report'.success ∧ report.errors = report'.errors ∧
        report.tree = report'.tree ∧ report.stats = report'.stats ∧
        report.resolvedChecks = report'.resolvedChecks ∧
        (Engine.run config registry v).log = (Engine.run { config with trace } registry' v).log ∧
        (config.trace = false → report.trace = [])) ∧
    ∀ (tracer : Option Bool) (vs : List Json), tracer.getD config.trace = false →
      (∀ v ∈ vs, v.DistinctKeys) →
      let session := Session.run ⟨.new config (tracer.map .empty), registry⟩ vs
      (∀ t, session.resolver.shared = some t → t.toJson = [] ∧ t.mutations = []) ∧
      ∀ ctx, session.resolver.last = some ctx →
        ctx.tracer.toJson = [] ∧ ctx.tracer.mutations = [] := by
  refine ⟨fun v hd => ⟨fun r r' hr hr' => ?_, Engine.run_tracing config trace h h' hd⟩,
    fun tracer vs htracer hvs => ?_⟩
  · exact resolve_tracing r r' h h' (hr ▸ hr') hd
  · have hshown : ∀ t : Tracer, t.IsSilent → t.toJson = [] ∧ t.mutations = [] := by
      intro t ht
      rw [Tracer.toJson, Tracer.mutations, ht.2]
      exact ⟨rfl, rfl⟩
    have hbegin : Session.IsSilent ⟨.new config (tracer.map .empty), registry⟩ :=
      ⟨by cases tracer <;> exact ⟨htracer, rfl⟩, fun _ hctx => by cases hctx⟩
    have hunder : Session.Under config ⟨.new config (tracer.map .empty), registry⟩ := ⟨rfl, h⟩
    have hend := Session.silent_run hunder hvs hbegin
    refine ⟨fun t ht => hshown t ?_, fun ctx hctx => hshown _ (hend.last ctx hctx)⟩
    have hnext := hend.nextTracer
    rwa [nextTracer, ht] at hnext

open Sample in
theorem tracing_looks_on_adjacentHelpers :
    Registry.initial.OnlyBuiltins ∧ adjacentHelpers.DistinctKeys ∧
      ((Resolver.new .default none).resolve .initial adjacentHelpers).tree =
        ((Resolver.new { Config.default with trace := false } (some (.empty true))).resolve
          .initial adjacentHelpers).tree ∧
      ∀ ctx, (Session.run ⟨.new .default (some (.empty false)), .initial⟩
          [adjacentHelpers, .null, adjacentHelpers]).resolver.last = some ctx →
        ctx.tracer.mutations = [] := by
  have h := Registry.onlyBuiltins_initial
  have hd : adjacentHelpers.DistinctKeys := by decide
  have hvs : ∀ v ∈ [adjacentHelpers, .null, adjacentHelpers], v.DistinctKeys := by decide
  obtain ⟨hsame, hsilent⟩ := tracing_looks_on .default false h h
  obtain ⟨-, -, htree, -⟩ := (hsame adjacentHelpers hd).1 (.new .default none)
    (.new { Config.default with trace := false } (some (.empty true))) rfl rfl
  obtain ⟨-, hlast⟩ := hsilent (some false) _ rfl hvs
  exact ⟨h, hd, htree, fun ctx hctx => (hlast ctx hctx).2⟩

end ComponentLookup
