import ComponentLookup.Proofs.Program.Distribution

/-!
# One resolver for many values

A resolver can be given any number of values one after another (`Session`).  What it makes of a
value depends on the names of its configuration only, and what it adds to its tracer is the same
addition every time (`Resolver.exists_addition`).

`Session.next_run` : **no state goes from one resolution to another**.  Whatever the resolver has
been given before, a node becomes what a new resolver makes of it, with the same counters, messages
and trace; a tracer that is shared has the traces of all resolutions behind each other
(`Session.shared_run`).
-/

namespace ComponentLookup

open Json

/-! ### The same names -/

namespace Program

variable {config config' : Config} {v : Json}

theorem resolvedStatement?_congr (h : config.SameNames config') (v : Json) :
    resolvedStatement? config v = resolvedStatement? config' v := by
  have hscanned : scanned config = scanned config' := by
    funext statements
    rw [scanned_eq, scanned_eq, h.resolverLocalName]
  have hresolver : withResolver config = withResolver config' := by
    funext specifiers
    unfold withResolver
    rw [h.resolverLocalName, h.resolverImportName]
  rw [resolvedStatement?, resolvedStatement?, namesRuntime, namesRuntime, hscanned, hresolver,
    h.renderEntryName, h.renderBodyName, h.missingReferenceName, h.runtimeSuffix]

theorem resolvedValue_congr (h : ∀ w ∈ standing v, resolved? config w = resolved? config' w) :
    resolvedValue config v = resolvedValue config' v := by
  cases v with
  | arr items =>
    have hitems : items.filterMap (resolved? config) = items.filterMap (resolved? config') :=
      List.filterMap_congr h
    rw [resolvedValue_arr, resolvedValue_arr, resolvedItems_eq_filterMap,
      resolvedItems_eq_filterMap, hitems]
  | _ => exact congrArg (·.getD .null) (h _ List.mem_cons_self)

theorem resolvedFields_congr {fields : Fields}
    (h : ∀ field ∈ fields, ∀ w ∈ standing field.2, resolved? config w = resolved? config' w) :
    resolvedFields config fields = resolvedFields config' fields := by
  induction fields with
  | nil => rfl
  | cons field rest ih =>
    obtain ⟨key, v⟩ := field
    rw [resolvedFields_cons, resolvedFields_cons, resolvedValue_congr (h _ List.mem_cons_self),
      ih fun field hf => h field (List.mem_cons_of_mem _ hf)]

/-- What becomes of a value depends on the names of a configuration only. -/
theorem resolved?_congr (h : config.SameNames config') (v : Json) :
    resolved? config v = resolved? config' v := by
  induction v using induct with
  | other v hp =>
    rw [resolved?_of_not_program hp, resolved?_of_not_program hp, resolvedStatement?_congr h]
  | program fields hp ih =>
    rw [resolved?_program hp, resolved?_program hp, resolvedFields_congr ih]

theorem resolvedRoot_congr (h : config.SameNames config') (v : Json) :
    resolvedRoot config v = resolvedRoot config' v := by
  rw [resolvedRoot, resolvedRoot, resolved?_congr h]

end Program

namespace Resolver

variable {config : Config} {registry : Registry} {v : Json} {a : Addition}

/-- Whatever a resolver with these names has done before, it resolves the node in the same way, and
makes the same addition. -/
def Makes (config : Config) (v : Json) (a : Addition) : Prop :=
  ∀ (r : Resolver) (registry : Registry), r.config.SameNames config → registry.OnlyBuiltins →
    ∃ registry' : Registry, registry'.OnlyBuiltins ∧ r.resolve registry v =
      { tree := Program.resolvedRoot config v
        resolver := { r with
          shared := r.shared.map fun _ => (r.finished a).tracer
          last := some (r.finished a) }
        registry := registry', log := (r.finished a).log, failure := none }

variable (config) in
/-- **Every resolver with the same names makes the same of a node**, and adds the same. -/
theorem exists_makes (hv : v.isNode = true) (hd : v.DistinctKeys) :
    ∃ a : Addition, Makes config v a := by
  obtain ⟨a, ha⟩ := adds_handledAll config fun w hw => (Program.of_mem_subjects (v := v) hw).1
  refine ⟨a, fun r registry hr h => ?_⟩
  rw [← Program.resolvedRoot_congr hr]
  exact r.resolve_of_addition h hv hd (ha r.opening hr)

theorem resolve_of_not_isNode (r : Resolver) (hv : ¬ v.isNode = true) :
    r.resolve registry v = { tree := v, resolver := r, registry, log := [], failure := none } :=
  if_neg hv

/-- The trace of a value: what a new resolver records that is given an empty tracer. -/
def traceOf (config : Config) (registry : Registry) (v : Json) : List Event :=
  match ((new config (some (.empty true))).resolve registry v).resolver.shared with
  | some tracer => tracer.events
  | none => []

theorem traceOf_of_makes (ha : Makes config v a) (h : registry.OnlyBuiltins) :
    traceOf config registry v = phaseEvents a.events := by
  obtain ⟨_, -, hresolve⟩ := ha (new config (some (.empty true))) registry (.refl config) h
  rw [traceOf, hresolve]
  exact congrArg Tracer.events (Tracer.extend_empty _ true)

/-- Traces behind each other.  The parent of an event is the same event of its own trace. -/
def joinTraces : List (List Event) → List Event
  | [] => []
  | trace :: rest => trace ++ (joinTraces rest).map (Event.relocate trace.length none)

end Resolver

/-! ### Sessions -/

/-- A resolver, and the registry that it works with. -/
structure Session where
  resolver : Resolver
  registry : Registry

namespace Session

open Resolver

/-- What the resolver makes of the next value. -/
def next (s : Session) (v : Json) : Resolution := s.resolver.resolve s.registry v

/-- The session after the next value. -/
def step (s : Session) (v : Json) : Session := ⟨(s.next v).resolver, (s.next v).registry⟩

/-- The session after some values, one after another. -/
def run (s : Session) (vs : List Json) : Session := vs.foldl step s

/-- The session has the given configuration and works with the built-in rules. -/
structure Under (config : Config) (s : Session) : Prop where
  config_eq : s.resolver.config = config
  onlyBuiltins : s.registry.OnlyBuiltins

variable {config : Config} {registry : Registry} {s : Session} {v : Json} {vs : List Json}

theorem run_cons (s : Session) (v : Json) (vs : List Json) :
    s.run (v :: vs) = (s.step v).run vs := rfl

theorem run_append (s : Session) (vs ws : List Json) : s.run (vs ++ ws) = (s.run vs).run ws :=
  List.foldl_append

theorem sameNames (hs : s.Under config) : s.resolver.config.SameNames config :=
  hs.config_eq ▸ .refl _

theorem step_of_not_isNode (s : Session) (hv : ¬ v.isNode = true) : s.step v = s := by
  rw [step, next, resolve_of_not_isNode _ hv]

/-- A step leaves the configuration, and the rules that the registry finds. -/
theorem under_step (hs : s.Under config) (hd : v.DistinctKeys) : (s.step v).Under config := by
  by_cases hv : v.isNode = true
  · obtain ⟨a, ha⟩ := exists_makes config hv hd
    obtain ⟨registry', hregistry', hresolve⟩ :=
      ha s.resolver s.registry (sameNames hs) hs.onlyBuiltins
    rw [step, next, hresolve]
    exact ⟨hs.config_eq, hregistry'⟩
  · rwa [step_of_not_isNode s hv]

theorem under_run (hs : s.Under config) (hvs : ∀ v ∈ vs, v.DistinctKeys) :
    (s.run vs).Under config := by
  induction vs generalizing s with
  | nil => exact hs
  | cons v vs ih =>
    obtain ⟨hv, hvs⟩ := List.forall_mem_cons.1 hvs
    exact ih (under_step hs hv) hvs

/-- Without a shared tracer every resolution has its own. -/
theorem shared_run_eq_none (hs : s.resolver.shared = none) (vs : List Json) :
    (s.run vs).resolver.shared = none := by
  induction vs generalizing s with
  | nil => exact hs
  | cons v vs ih =>
    -- a resolution puts a tracer only where one was
    refine ih ?_
    simp only [step, next, resolve]
    split_ifs
    · rw [hs, Option.map_none]
    · exact hs

/-- A step puts the trace of its value behind what is in the shared tracer. -/
theorem shared_step (hs : s.Under config) (hv : v.isNode = true) (hd : v.DistinctKeys)
    (h : registry.OnlyBuiltins) {t : Tracer} (ht : s.resolver.shared = some t) :
    (s.step v).resolver.shared = some (t.extend (traceOf config registry v)) := by
  obtain ⟨a, ha⟩ := exists_makes config hv hd
  obtain ⟨_, -, hresolve⟩ := ha s.resolver s.registry (sameNames hs) hs.onlyBuiltins
  have hnext : s.resolver.nextTracer = t := by rw [nextTracer, ht]
  rw [step, next, hresolve, traceOf_of_makes ha h, ht, Option.map_some, finished, hnext]

/-- **A shared tracer has the traces of all resolutions behind each other.** -/
theorem shared_run (hs : s.Under config) (hvs : ∀ v ∈ vs, v.DistinctKeys)
    (h : registry.OnlyBuiltins) {t : Tracer} (ht : s.resolver.shared = some t) :
    (s.run vs).resolver.shared =
      some (t.extend (joinTraces ((vs.filter (·.isNode)).map (traceOf config registry)))) := by
  induction vs generalizing s t with
  | nil => rw [List.filter_nil, List.map_nil, joinTraces, Tracer.extend_nil]; exact ht
  | cons v vs ih =>
    obtain ⟨hd, hvs⟩ := List.forall_mem_cons.1 hvs
    by_cases hv : v.isNode = true
    · -- the rest stands behind the trace of the first value
      have hrest := ih (under_step hs hd) hvs (shared_step hs hv hd h ht)
      rw [run_cons, hrest, Tracer.extend_extend, List.filter_cons_of_pos hv, List.map_cons,
        joinTraces]
    · rw [run_cons, step_of_not_isNode s hv, List.filter_cons_of_neg hv]
      exact ih hs hvs ht

/-- There is a shared tracer after the values just if there was one before. -/
theorem map_shared_run {α : Type} (hs : s.Under config) (hvs : ∀ v ∈ vs, v.DistinctKeys) (x : α) :
    (s.run vs).resolver.shared.map (fun _ => x) = s.resolver.shared.map fun _ => x := by
  cases ht : s.resolver.shared with
  | none => rw [shared_run_eq_none ht]
  | some t => rw [shared_run hs hvs hs.onlyBuiltins ht, Option.map_some, Option.map_some]

/-- Without a shared tracer the resolution ends with the tracer of a new resolver. -/
theorem tracer_finished (hs : s.Under config) (hshared : s.resolver.shared = none) (a : Addition) :
    (s.resolver.finished a).tracer = ((new config none).finished a).tracer := by
  have hnext : s.resolver.nextTracer = (new config none).nextTracer := by
    rw [nextTracer, hshared, hs.config_eq]
    rfl
  rw [finished, finished, hnext]

/-- **No state goes from one resolution to another.**  The resolver has a tracer of its own for each
resolution, or shares one that was empty, and has been given some values before. -/
theorem next_run (config : Config) (tracer : Option Bool) (h : registry.OnlyBuiltins)
    (hvs : ∀ v ∈ vs, v.DistinctKeys) (hd : v.DistinctKeys) :
    let session := run ⟨.new config (tracer.map .empty), registry⟩ vs
    let fresh := (Resolver.new config none).resolve registry v
    (v.isNode = true →
      (session.next v).failure = none ∧ fresh.failure = none ∧
      (session.next v).tree = fresh.tree ∧ (session.next v).log = fresh.log ∧
      ∃ c c' : Context, (session.next v).resolver.last = some c ∧
        fresh.resolver.last = some c' ∧ c.stats = c'.stats ∧
        (tracer = none → c.tracer = c'.tracer) ∧
        (session.next v).resolver.shared = tracer.map (fun _ => c.tracer) ∧
        (config.trace = true → c'.tracer.events = traceOf config registry v)) ∧
    (tracer = some true → (session.next v).resolver.shared = some
      { recording := true
        events := joinTraces (((vs ++ [v]).filter (·.isNode)).map (traceOf config registry))
        phases := [] }) ∧
    (¬ v.isNode = true →
      (session.next v).failure = none ∧ (session.next v).tree = v ∧
      (session.next v).resolver = session.resolver ∧ (session.next v).log = []) := by
  intro session fresh
  have hbegin : Under config ⟨.new config (tracer.map .empty), registry⟩ := ⟨rfl, h⟩
  have hsession : session.Under config := under_run hbegin hvs
  refine ⟨fun hv => ?_, fun htracer => ?_, fun hv => ?_⟩
  · -- the used resolver and the new one make the same addition
    obtain ⟨a, ha⟩ := exists_makes config hv hd
    obtain ⟨_, -, hnext⟩ :=
      ha session.resolver session.registry (sameNames hsession) hsession.onlyBuiltins
    obtain ⟨_, -, hfresh⟩ := ha (.new config none) registry (.refl config) h
    have hlog : (session.resolver.finished a).log = ((new config none).finished a).log := rfl
    refine ⟨congrArg Resolution.failure hnext, congrArg Resolution.failure hfresh,
      (congrArg Resolution.tree hnext).trans (congrArg Resolution.tree hfresh).symm,
      (congrArg Resolution.log hnext).trans (hlog.trans (congrArg Resolution.log hfresh).symm),
      session.resolver.finished a, (new config none).finished a,
      congrArg (·.resolver.last) hnext, congrArg (·.resolver.last) hfresh, rfl, ?_, ?_, ?_⟩
    · rintro rfl
      exact tracer_finished hsession (shared_run_eq_none rfl vs) a
    · refine ((congrArg (·.resolver.shared) hnext).trans (map_shared_run hbegin hvs _)).trans ?_
      exact Option.map_map _ _ _
    · intro htrace
      rw [traceOf_of_makes ha h, finished, nextTracer, new, htrace]
      exact congrArg Tracer.events (Tracer.extend_empty _ true)
  · -- the node is the last of the values that the tracer has been shared by
    subst htracer
    have hrun : (run ⟨.new config (some (.empty true)), registry⟩ (vs ++ [v])).resolver.shared =
        _ := shared_run hbegin
      (fun w hw => (List.mem_append.1 hw).elim (hvs w) fun hw => List.mem_singleton.1 hw ▸ hd) h rfl
    rw [run_append, Tracer.extend_empty] at hrun
    exact hrun
  · have hnext : session.next v = _ := resolve_of_not_isNode session.resolver hv
    rw [hnext]
    exact ⟨rfl, rfl, rfl, rfl⟩

end Session

open Sample in
theorem next_run_adjacentHelpers :
    Registry.initial.OnlyBuiltins ∧ adjacentHelpers.isNode = true ∧
      adjacentHelpers.DistinctKeys ∧ (∀ v ∈ [adjacentHelpers, .null, helper], v.DistinctKeys) ∧
      let session := Session.run ⟨.new .default (some (.empty true)), .initial⟩
        [adjacentHelpers, .null, helper]
      (session.next adjacentHelpers).tree =
          ((Resolver.new .default none).resolve .initial adjacentHelpers).tree ∧
        (session.next adjacentHelpers).resolver.shared = some
          { recording := true
            events := Resolver.joinTraces ([adjacentHelpers, helper, adjacentHelpers].map
              (Resolver.traceOf .default .initial))
            phases := [] } := by
  have hv : adjacentHelpers.isNode = true := by decide
  have hd : adjacentHelpers.DistinctKeys := by decide
  have hvs : ∀ v ∈ [adjacentHelpers, .null, helper], v.DistinctKeys := by decide
  obtain ⟨hnode, hshared, -⟩ :=
    Session.next_run .default (some true) Registry.onlyBuiltins_initial hvs hd
  obtain ⟨-, -, htree, -⟩ := hnode hv
  exact ⟨Registry.onlyBuiltins_initial, hv, hd, hvs, htree, hshared rfl⟩

end ComponentLookup
