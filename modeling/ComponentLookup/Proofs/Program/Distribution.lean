import ComponentLookup.Proofs.Program.Exact
import ComponentLookup.Proofs.Rule.Addition

/-!
# Programs one behind the other

The rules handle the statements of a program one after another, and what they add for one of them
does not depend on the others (`adds_handledAll`).  So a resolution adds to its fresh context what
its subjects add, inside a phase of its own (`Resolver.resolve_of_addition`).

`Resolver.resolve_append` : when two bodies stand one behind the other in a program, **what the
resolution makes of it, counts, warns about and traces is what it does for each of them**, the
second behind the first.
-/

namespace ComponentLookup

open Json

/-! ### What a resolution adds -/

/-- What the rules add for some nodes does not depend on the context, its names apart. -/
theorem adds_handledAll (config : Config) {nodes : List Json}
    (h : ∀ v ∈ nodes, v.isNode = true) : Context.Adds config (handledAll nodes) := by
  induction nodes with
  | nil => exact .id config
  | cons v nodes ih =>
    have hrest := ih fun w hw => h w (List.mem_cons_of_mem v hw)
    exact hrest.comp (adds_handled config (h v List.mem_cons_self))

namespace Resolver

variable (r : Resolver)

/-- The events of a resolution, with the given events inside its phase. -/
def phaseEvents (inside : List Event) : List Event :=
  Tracer.inPhase "Resolve Components" "Rewriting missing component assertions" inside

/-- The context at the end of a resolution in which the rules have made an addition. -/
def finished (a : Addition) : Context where
  config := r.config
  stats := Stats.initial.countAll a.counts
  tracer := r.nextTracer.extend (phaseEvents a.events)
  log := a.log ++ [{
    level := .debug
    message := "Rewrite finished: " ++ (Stats.initial.countAll a.counts).toJson.quoted }]

theorem closing_opening_add (a : Addition) : closing (r.opening.add a) = r.finished a := by
  have hphase := r.nextTracer.endPhase_extend_startPhase a.events "Resolve Components"
    "Rewriting missing component assertions"
  simp only [closing, opening, Context.add, Context.fresh, Context.traced, Context.report, finished,
    phaseEvents, hphase, List.nil_append]

variable {registry : Registry} {tree : Json} {a : Addition}

/-- **A resolution adds what its subjects add**, inside a phase of its own. -/
theorem resolve_of_addition (h : registry.OnlyBuiltins) (hv : tree.isNode = true)
    (hd : tree.DistinctKeys)
    (ha : handledAll (Program.subjects tree) r.opening = r.opening.add a) :
    ∃ registry' : Registry, registry'.OnlyBuiltins ∧ r.resolve registry tree =
      { tree := Program.resolvedRoot r.config tree
        resolver := { r with
          shared := r.shared.map fun _ => (r.finished a).tracer
          last := some (r.finished a) }
        registry := registry', log := (r.finished a).log, failure := none } := by
  obtain ⟨registry', hregistry', hresolve⟩ := resolve_node r h hv hd
  refine ⟨registry', hregistry', ?_⟩
  simpa only [ha, closing_opening_add] using hresolve

end Resolver

/-! ### Programs with nothing but a body -/

namespace Program

variable {config : Config} {body : List Json}

/-- The program with the given statements and no other field. -/
def ofBody (body : List Json) : Json := .obj [("type", .str "Program"), ("body", .arr body)]

theorem isKind_ofBody (body : List Json) : (ofBody body).isKind "Program" = true := rfl

theorem distinctKeys_ofBody (h : ∀ v ∈ body, v.DistinctKeys) : (ofBody body).DistinctKeys :=
  ⟨by simp, trivial, distinctKeysItems_iff.2 h, trivial⟩

theorem subjects_ofBody (body : List Json) : subjects (ofBody body) = body.flatMap subjects := by
  rw [ofBody, subjects_program (isKind_ofBody body), subjectsInFields_cons, subjectsInFields_cons]
  simp [standing, subjectsInFields]

theorem resolvedRoot_ofBody (config : Config) (body : List Json) :
    resolvedRoot config (ofBody body) = ofBody (body.filterMap (resolved? config)) := by
  rw [resolvedRoot, ofBody, resolved?_program (isKind_ofBody body), resolvedFields_cons,
    resolvedFields_cons]
  simp [resolvedValue, resolvedItems_eq_filterMap, resolvedFields, ofBody]

variable (body) in
theorem isNode_of_mem_flatMap_subjects : ∀ v ∈ body.flatMap subjects, v.isNode = true := by
  intro v hv
  obtain ⟨w, -, hw⟩ := List.mem_flatMap.1 hv
  exact (of_mem_subjects hw).1

end Program

/-! ### One body behind the other -/

/-- What is added to a counter does not depend on where it stands. -/
theorem Stats.get_countAll (stats : Stats) (counts : List (String × Int)) (key : String) :
    (stats.countAll counts).get key = stats.get key + (countAll [] counts).get key := by
  induction counts generalizing stats with
  | nil => exact (Int.add_zero _).symm
  | cons entry rest ih =>
    have hstats : stats.countAll (entry :: rest) =
        (stats.count entry.1 entry.2).countAll rest := rfl
    have hempty : countAll [] (entry :: rest) = (count entry.1 entry.2 []).countAll rest := rfl
    rw [hstats, hempty, ih, ih (count entry.1 entry.2 []), get_count, get_count, get, Int.zero_add,
      Int.add_assoc]

/-- Counters that all stand at zero. -/
theorem Stats.get_eq_zero {stats : Stats} (h : ∀ entry ∈ stats, entry.2 = 0) (key : String) :
    stats.get key = 0 := by
  induction stats with
  | nil => rfl
  | cons entry rest ih =>
    obtain ⟨k, n⟩ := entry
    obtain ⟨hn, hrest⟩ := List.forall_mem_cons.1 h
    rw [get, ih hrest]
    split_ifs
    · exact hn
    · rfl

/-- The event in the trace of a program that has more statements in front: the phase of the
resolution stays the parent of what stands directly in it, and the other positions are moved. -/
def Event.behind (n : Nat) (e : Event) : Event :=
  { e with parent := e.parent.map fun i => if i = 0 then 0 else i + n }

theorem Event.behind_relocate (n : Nat) (e : Event) :
    (e.relocate 1 (some 0)).behind n = (e.relocate n none).relocate 1 (some 0) := by
  obtain ⟨body, parent⟩ := e
  cases parent with
  | none => rfl
  | some i => simp [behind, Nat.add_right_comm]

namespace Resolver

/-- The trace of a single resolution with the given events strictly inside its phase; a tracer that
does not record has none. -/
def ownTrace (recording : Bool) (inside : List Event) : List Event :=
  if recording then
    { body := .phaseStart "Resolve Components" "Rewriting missing component assertions"
      parent := none } :: (inside ++ [{ body := .phaseEnd, parent := some 0 }])
  else []

/-- A resolution with an empty tracer, a shared one or its own, leaves its own trace. -/
theorem events_finished (config : Config) (tracer : Option Bool) (a : Addition) :
    ((new config (tracer.map .empty)).finished a).tracer.events =
      ownTrace (tracer.getD config.trace) (a.events.map (Event.relocate 1 (some 0))) := by
  cases tracer <;> simp only [finished, nextTracer, new, Option.map_none, Option.map_some,
    Tracer.extend_empty] <;> rfl

theorem get_finished (r : Resolver) (a : Addition) (key : String) :
    (r.finished a).stats.get key = (Stats.countAll [] a.counts).get key := by
  have hinitial : ∀ entry ∈ Stats.initial, entry.2 = 0 := by decide
  have hget : (r.finished a).stats.get key = _ := Stats.get_countAll Stats.initial a.counts key
  rw [hget, Stats.get_eq_zero hinitial, Int.zero_add]

/-- The message at the end of a resolution is no warning. -/
theorem warnings_finished (r : Resolver) (a : Addition) :
    Log.atLeast .warning (r.finished a).log = Log.atLeast .warning a.log := by
  simp [finished, Log.atLeast, Log.Level.weight]

variable {registry : Registry}

/-- All that the resolution of a body shows is in what its statements add. -/
theorem resolve_ofBody (r : Resolver) (h : registry.OnlyBuiltins) {body : List Json} {a : Addition}
    (hbody : ∀ v ∈ body, v.DistinctKeys)
    (ha : handledAll (body.flatMap Program.subjects) r.opening = r.opening.add a) :
    let resolution := r.resolve registry (Program.ofBody body)
    resolution.failure = none ∧
      resolution.tree = Program.ofBody (body.filterMap (Program.resolved? r.config)) ∧
      resolution.resolver.last = some (r.finished a) ∧ resolution.log = (r.finished a).log := by
  rw [← Program.subjects_ofBody] at ha
  obtain ⟨_, -, hresolve⟩ := r.resolve_of_addition h
    (isNode_of_isKind (Program.isKind_ofBody body)) (Program.distinctKeys_ofBody hbody) ha
  rw [Program.resolvedRoot_ofBody] at hresolve
  rw [hresolve]
  exact ⟨rfl, rfl, rfl, rfl⟩

/-- **A resolution distributes over the body of a program**: the statements, the counters, the
warnings and the events inside the phase of the resolution.  The tracer is that of the
configuration, or an empty one that the resolver was given. -/
theorem resolve_append (config : Config) (tracer : Option Bool) (h : registry.OnlyBuiltins)
    {xs ys : List Json} (hxs : ∀ v ∈ xs, v.DistinctKeys) (hys : ∀ v ∈ ys, v.DistinctKeys) :
    let resolution (body : List Json) :=
      (new config (tracer.map .empty)).resolve registry (Program.ofBody body)
    ∃ (xs' ys' : List Json) (cx cy c : Context),
      (resolution xs).failure = none ∧ (resolution ys).failure = none ∧
      (resolution (xs ++ ys)).failure = none ∧
      (resolution xs).tree = Program.ofBody xs' ∧ (resolution ys).tree = Program.ofBody ys' ∧
      (resolution (xs ++ ys)).tree = Program.ofBody (xs' ++ ys') ∧
      (resolution xs).resolver.last = some cx ∧ (resolution ys).resolver.last = some cy ∧
      (resolution (xs ++ ys)).resolver.last = some c ∧
      (∀ key, c.stats.get key = cx.stats.get key + cy.stats.get key) ∧
      Log.atLeast .warning (resolution (xs ++ ys)).log =
        Log.atLeast .warning (resolution xs).log ++ Log.atLeast .warning (resolution ys).log ∧
      ∃ inside inside' : List Event,
        cx.tracer.events = ownTrace (tracer.getD config.trace) inside ∧
        cy.tracer.events = ownTrace (tracer.getD config.trace) inside' ∧
        c.tracer.events = ownTrace (tracer.getD config.trace)
          (inside ++ inside'.map (Event.behind inside.length)) := by
  intro resolution
  let r := new config (tracer.map .empty)
  -- what the statements add, those of the second body wherever they stand
  obtain ⟨a, ha⟩ := adds_handledAll config (Program.isNode_of_mem_flatMap_subjects xs)
  obtain ⟨b, hb⟩ := adds_handledAll config (Program.isNode_of_mem_flatMap_subjects ys)
  have hnames : ∀ ctx : Context, ctx.config = config → ctx.config.SameNames config :=
    fun ctx hctx => hctx ▸ .refl ctx.config
  have hboth : handledAll ((xs ++ ys).flatMap Program.subjects) r.opening =
      r.opening.add (a ++ b) := by
    rw [List.flatMap_append, handledAll_append, ha _ (hnames _ rfl),
      hb (r.opening.add a) (hnames _ rfl), Context.add_append]
  obtain ⟨hfx, htx, hlx, hgx⟩ := r.resolve_ofBody h hxs (ha _ (hnames _ rfl))
  obtain ⟨hfy, hty, hly, hgy⟩ := r.resolve_ofBody h hys (hb _ (hnames _ rfl))
  have hbodies : ∀ v ∈ xs ++ ys, v.DistinctKeys :=
    fun v hv => (List.mem_append.1 hv).elim (hxs v) (hys v)
  obtain ⟨hf, ht, hl, hg⟩ := r.resolve_ofBody h hbodies hboth
  refine ⟨_, _, _, _, _, hfx, hfy, hf, htx, hty, ?_, hlx, hly, hl, fun key => ?_, ?_,
    a.events.map (Event.relocate 1 (some 0)), b.events.map (Event.relocate 1 (some 0)),
    events_finished config tracer a, events_finished config tracer b, ?_⟩
  · rw [ht, List.filterMap_append]
  · have hcounts : Stats.countAll [] (a ++ b).counts =
        (Stats.countAll [] a.counts).countAll b.counts := List.foldl_append
    rw [get_finished, get_finished, get_finished, hcounts, Stats.get_countAll]
  · have hlog : (a ++ b).log = a.log ++ b.log := rfl
    rw [hg, hgx, hgy, warnings_finished, warnings_finished, warnings_finished, hlog]
    exact List.filter_append _ _
  · -- moved inside the phase and then behind, or behind and then inside
    have hevents : (a ++ b).events =
        a.events ++ b.events.map (Event.relocate a.events.length none) := rfl
    rw [events_finished, hevents, List.map_append, List.map_map, List.map_map, List.length_map]
    simp only [Function.comp_def, Event.behind_relocate]

end Resolver

namespace Sample

/-- An import and a helper, before an entry function with an assertion. -/
def front : List Json :=
  [importFrom "vue/jsx-runtime" [], helper, entry [declaration "const", assertion "Foo"]]

/-- A helper, a hole and an entry function without a render body, before one with an assertion. -/
def back : List Json := [helper, .null, function "MDXContent" [], entry [assertion "Bar"]]

end Sample

open Sample in
theorem resolve_append_front_back :
    Registry.initial.OnlyBuiltins ∧ (∀ v ∈ front, v.DistinctKeys) ∧
      (∀ v ∈ back, v.DistinctKeys) ∧
      let resolution (body : List Json) :=
        (Resolver.new .default none).resolve .initial (Program.ofBody body)
      ∃ front' back' : List Json, (resolution front).tree = Program.ofBody front' ∧
        (resolution back).tree = Program.ofBody back' ∧
        (resolution (front ++ back)).tree = Program.ofBody (front' ++ back') := by
  have hfront : ∀ v ∈ front, v.DistinctKeys := by decide
  have hback : ∀ v ∈ back, v.DistinctKeys := by decide
  obtain ⟨front', back', _, _, _, -, -, -, htx, hty, ht, -⟩ :=
    Resolver.resolve_append .default none Registry.onlyBuiltins_initial hfront hback
  exact ⟨Registry.onlyBuiltins_initial, hfront, hback, front', back', htx, hty, ht⟩

end ComponentLookup
