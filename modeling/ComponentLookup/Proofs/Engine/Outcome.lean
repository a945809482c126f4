import ComponentLookup.Engine
import ComponentLookup.Proofs.Program.Exact
import ComponentLookup.Proofs.Rule.StrictDispatch

/-!
# The outcome of a job

A program comes from outside, and any of its fields may hold any value.  Under the built-in rules
nothing that a resolution meets makes it fail (`Resolver.failure_resolve`): a rule reads a node only
after it has seen that it is one, and what does not fit stays as it is.  That this is not for want
of steps that fail is shown on the strict forms of the resolution and of the job, in which every
read and every text is a step that may: each does what the running one does, or stops at an integer
that is too long to be written (`Strict.unlessLong_applyRules`, `Engine.Strict.unlessLong_run`).

So a job on a value that can be read ends with a report (`Engine.run_outcome`).  For a program it is
the report of a success, with the resolved tree and its counters; for any other value it is that of
a failure with one error, and the value was handed to no rule.  Where a long integer stands in the
type tag of a value that is no program, there is none (`Engine.Strict.run_eq_error_iff`).

Counters are not written strictly: they count nodes, and no tree has so many.
-/

namespace ComponentLookup

open Json

variable {config : Config} {tracer : Tracer} {registry : Registry} {tree : Json}

/-! ### Resolutions -/

variable (config tracer) in
theorem failure_applyRules (h : registry.OnlyBuiltins) (hv : tree.isNode = true) :
    (applyRules config tracer registry tree).failure = none := by
  have hwalk := failure_ruleVisitor registry hv (s := ⟨Context.fresh config (tracer.startPhase
    "Resolve Components" "Rewriting missing component assertions"), registry⟩) h
  simp only [applyRules, hwalk]

/-- What holds when the walk begins, and survives the rules, holds at the end. -/
theorem Context.IsKept.applyRules {P : Context → Prop} (hk : IsKept P) (h : registry.OnlyBuiltins)
    (hP : P (.fresh config
      (tracer.startPhase "Resolve Components" "Rewriting missing component assertions"))) :
    P (applyRules config tracer registry tree).context := by
  have hend := hk.traced _ _ .endPhase (hk.walk registry tree (s := ⟨Context.fresh config
    (tracer.startPhase "Resolve Components" "Rewriting missing component assertions"), registry⟩)
    h hP)
  unfold ComponentLookup.applyRules
  dsimp only
  split
  · exact hend
  · exact hk.report _ _ _ hend

variable (config tracer tree) in
/-- The counters of a resolution are the four of the built-in rules. -/
theorem hasCounters_applyRules (h : registry.OnlyBuiltins) :
    (applyRules config tracer registry tree).context.HasCounters :=
  Context.isKept_hasCounters.applyRules h rfl

namespace Resolver

variable (r : Resolver)

/-- **A resolution does not fail**, whatever the value is that it is given. -/
theorem failure_resolve (h : registry.OnlyBuiltins) (v : Json) :
    (r.resolve registry v).failure = none := by
  unfold resolve
  split_ifs with hv
  · exact failure_applyRules _ _ h hv
  · rfl

/-- A resolver on its own applies the rules with a tracer of its own. -/
theorem tree_resolve_new (hv : tree.isNode = true) :
    ((new config none).resolve registry tree).tree =
      (applyRules config (Tracer.empty config.trace) registry tree).tree := by
  rw [resolve, if_pos hv]
  rfl

end Resolver

/-! ### Strict resolutions -/

namespace Strict

/-- Applies the built-in rules to a program, inside a phase of their own. -/
def applyRules (config : Config) (tracer : Tracer) (registry : Registry) (tree : Json) :
    Except StepFault Applied :=
  let tracer := tracer.startPhase "Resolve Components" "Rewriting missing component assertions"
  let walked := walk (visitor registry) tree ⟨Context.fresh config tracer, registry⟩
  match walked.failure with
  | some fault => .error fault
  | none =>
    let ctx := walked.state.context.traced (·.endPhase)
    let ctx := ctx.report .debug ("Rewrite finished: " ++ ctx.stats.toJson.quoted)
    .ok ⟨walked.node, ctx, walked.state.registry, none⟩

variable (config tracer) in
/-- **The strict rules** do to a program what the running ones do, unless it holds a long
integer. -/
theorem unlessLong_applyRules (h : registry.OnlyBuiltins) (hv : tree.isNode = true) :
    UnlessLong tree.Readable (applyRules config tracer registry tree)
      (.ok (ComponentLookup.applyRules config tracer registry tree)) := by
  unfold applyRules ComponentLookup.applyRules
  dsimp only
  generalize hs : (⟨Context.fresh config (tracer.startPhase "Resolve Components"
    "Rewriting missing component assertions"), registry⟩ : RuleState) = s
  have hregistry : s.registry.OnlyBuiltins := by
    rw [← hs]
    exact h
  have hwalk := walk_follows registry hv hregistry
  generalize walk (visitor registry) tree s = walked at hwalk ⊢
  generalize walk (ruleVisitor registry) tree s = walked' at hwalk ⊢
  cases hwalk with
  | same node s => exact .ok _
  | stop _ _ _ hnot => exact .stop (by simp) hnot

end Strict

namespace Resolver.Strict

/-- Resolves the components of a program. -/
def resolve (r : Resolver) (registry : Registry) (tree : Json) : Except StepFault Resolution := do
  if tree.isNode then
    let applied ← Strict.applyRules r.config r.nextTracer registry tree
    return { tree := applied.tree
             resolver := { r with
               shared := r.shared.map fun _ => applied.context.tracer
               last := some applied.context }
             registry := applied.registry
             log := applied.context.log
             failure := applied.failure }
  else return { tree, resolver := r, registry, log := [], failure := none }

/-- **A strict resolution** is the running one, unless the value holds a long integer. -/
theorem unlessLong_resolve (r : Resolver) (h : registry.OnlyBuiltins) (v : Json) :
    UnlessLong v.Readable (resolve r registry v) (.ok (r.resolve registry v)) := by
  unfold resolve Resolver.resolve
  split_ifs with hv
  · exact (ComponentLookup.Strict.unlessLong_applyRules _ _ h hv).bind_ok (.ok _)
  · exact .ok _

end Resolver.Strict

/-! ### Jobs -/

namespace Engine

variable (config) in
/-- The job on a program ends with the report of a success. -/
theorem run_program (h : registry.OnlyBuiltins) (hp : tree.isKind "Program" = true) :
    ∃ report, (run config registry tree).report = .ok report ∧ report.success = true ∧
      report.errors = [] ∧ report.tree = ((Resolver.new config none).resolve registry tree).tree ∧
      ("checks_rewritten", report.resolvedChecks) ∈ report.stats := by
  have hv := isNode_of_isKind hp
  have hfailure := failure_applyRules config (Tracer.empty config.trace) h hv
  have hcounters := hasCounters_applyRules config (Tracer.empty config.trace) tree h
  rw [run, if_pos hp]
  simp only [hfailure]
  refine ⟨_, rfl, rfl, rfl, (Resolver.tree_resolve_new hv).symm, Stats.get_mem ?_⟩
  change _ ∈ List.map Prod.fst (applyRules config (Tracer.empty config.trace) registry
    tree).context.stats
  rw [hcounters]
  decide

variable {w : Json} {ctx : Context} {registry' : Registry}

/-- A job hands a program to a resolver of its own, and reports what that one makes of it. -/
theorem run_of_resolve (hp : tree.isKind "Program" = true)
    (h : (Resolver.new config none).resolve registry tree =
      { tree := w, resolver := { config, shared := none, last := some ctx }
        registry := registry', log := ctx.log, failure := none }) :
    run config registry tree =
      { report := .ok { tree := w, stats := ctx.stats, trace := ctx.tracer.toJson }
        log := ctx.log ++ [{ level := .info, message := summary ctx.stats }]
        registry := registry' } := by
  rw [Resolver.resolve, if_pos (isNode_of_isKind hp)] at h
  have htree := congrArg Resolution.tree h
  have hlast := Option.some.inj (congrArg (·.resolver.last) h)
  have hrules := congrArg Resolution.registry h
  have hfailure := congrArg Resolution.failure h
  dsimp only [Resolver.new, Resolver.nextTracer] at htree hlast hrules hfailure
  rw [run, if_pos hp]
  simp only [hfailure, htree, hlast, hrules]
  rfl

/-- The job on any other value ends with the report of a failure, and asks for no rule. -/
theorem run_other (hp : ¬ tree.isKind "Program" = true) :
    run config registry tree =
      { report := .ok (Report.failed (notAProgramMessage tree))
        log := [{ level := .error, message := notAProgramMessage tree }]
        registry } := by
  rw [run, if_neg hp]
  rfl

variable (config) in
/-- **Every job ends with a report**: on a program that of a success, on anything else that of a
failure, with the value left to no rule. -/
theorem report_run (h : registry.OnlyBuiltins) (v : Json) :
    ∃ report, (run config registry v).report = .ok report ∧
      (v.isKind "Program" = true →
        report.success = true ∧ report.errors = [] ∧
        report.tree = ((Resolver.new config none).resolve registry v).tree ∧
        ("checks_rewritten", report.resolvedChecks) ∈ report.stats) ∧
      (¬ v.isKind "Program" = true →
        report.success = false ∧ report.errors.length = 1 ∧ report.hasErrors = true ∧
        report.tree = .null ∧ report.stats = [] ∧ report.trace = [] ∧
        (run config registry v).registry = registry) := by
  by_cases hp : v.isKind "Program" = true
  · obtain ⟨report, hreport, hsuccess⟩ := run_program config h hp
    exact ⟨report, hreport, fun _ => hsuccess, fun hnot => absurd hp hnot⟩
  · refine ⟨_, congrArg Job.report (run_other hp), fun hk => absurd hk hp, fun _ => ?_⟩
    exact ⟨rfl, rfl, rfl, rfl, rfl, rfl, congrArg Job.registry (run_other hp)⟩

/-! ### Strict jobs -/

namespace Strict

/-- What stands in place of the type tag of a program. -/
def foundType : Json → Except StepFault String
  | .obj fields => Json.Strict.display ((Fields.get? "type" fields).getD .null)
  | v => .ok v.kindName

/-- Resolves the components of a program. -/
def run (config : Config) (registry : Registry) (tree : Json) : Except StepFault Job := do
  if tree.isKind "Program" then
    let applied ← Strict.applyRules config (Tracer.empty config.trace) registry tree
    let ctx := applied.context.report .info (summary applied.context.stats)
    return { report := .ok { tree := applied.tree, stats := ctx.stats, trace := ctx.tracer.toJson }
             log := ctx.log
             registry := applied.registry }
  else
    let found ← foundType tree
    return reject registry ("Expected an ESTree 'Program' node, got '" ++ found ++ "'.")

theorem unlessLong_foundType (v : Json) :
    UnlessLong v.Readable (foundType v) (.ok (Engine.foundType v)) := by
  cases v with
  | obj fields =>
    refine (Json.Strict.unlessLong_display _).mono fun hv => ?_
    cases htype : Fields.get? "type" fields with
    | none => exact hereditary_readable.null
    | some tag => exact hereditary_readable.field hv htype
  | _ => exact .ok _

variable (config registry) in
theorem unlessLong_run_other {v : Json} (hp : ¬ v.isKind "Program" = true) :
    UnlessLong v.Readable (run config registry v) (.ok (Engine.run config registry v)) := by
  rw [run, Engine.run, if_neg hp, if_neg hp]
  exact (unlessLong_foundType v).bind_ok (.ok _)

variable (config) in
/-- **A strict job** is the running one, unless the value holds a long integer. -/
theorem unlessLong_run (h : registry.OnlyBuiltins) (v : Json) :
    UnlessLong v.Readable (run config registry v) (.ok (Engine.run config registry v)) := by
  by_cases hp : v.isKind "Program" = true
  · have hv := isNode_of_isKind hp
    rw [run, Engine.run, if_pos hp, if_pos hp]
    refine (Strict.unlessLong_applyRules config (.empty config.trace) h hv).bind_ok ?_
    simp only [failure_applyRules config (.empty config.trace) h hv]
    exact .ok _
  · exact unlessLong_run_other config registry hp

theorem foundType_eq_error_iff {v : Json} (hd : v.DistinctKeys) {fault : StepFault} :
    foundType v = .error fault ↔
      fault = .longInteger ∧ ∃ tag, v.get? "type" = some tag ∧ ¬ tag.Readable := by
  cases v with
  | obj fields =>
    have hget : (Json.obj fields).get? "type" = Fields.get? "type" fields := rfl
    rw [foundType, hget]
    cases htype : Fields.get? "type" fields with
    | none => exact iff_of_false (by rintro ⟨⟩) (by simp)
    | some tag =>
      rw [Option.getD_some, Json.Strict.display_eq_error_iff (hd.get? (hget.trans htype))]
      simp
  | _ => exact iff_of_false (by rintro ⟨⟩) (by simp [get?])

/-- **On a value that is no program a job stops** just if there is a long integer in the type
tag, which need be no text. -/
theorem run_eq_error_iff {v : Json} (hp : ¬ v.isKind "Program" = true) (hd : v.DistinctKeys)
    {fault : StepFault} : run config registry v = .error fault ↔
      fault = .longInteger ∧ ∃ tag, v.get? "type" = some tag ∧ ¬ tag.Readable := by
  rw [← foundType_eq_error_iff hd, run, if_neg hp]
  cases foundType v with
  | ok found => exact iff_of_false (by rintro ⟨⟩) (by simp)
  | error e => simp [bind, Except.bind]

end Strict

end Engine

namespace Sample

/-- A program in which hardly a field holds what belongs there. -/
def malformed : Json :=
  program [
    .obj [("type", .str "ImportDeclaration"), ("source", .int 3), ("specifiers", .null)],
    importFrom "vue/jsx-runtime" [.null, .obj [("local", .arr [])]],
    .obj [("type", .str "FunctionDeclaration"), ("id", Node.identifier (.str "MDXContent")),
      ("body", .int 7)],
    entry [.str "statement", .obj [("type", .str "IfStatement"), ("test", .bool false)]],
    .obj [("type", .str "Program"), ("body", .obj [("type", .null)])], .obj [], .null]

end Sample

end ComponentLookup
