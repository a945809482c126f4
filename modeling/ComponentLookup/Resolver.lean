import ComponentLookup.Json.Display
import ComponentLookup.Rule.Registry

/-!
# Resolving the components of a program

The resolver walks a program once and hands each node to the rule for its type.  It descends into
programs without asking a rule, and passes by every node whose type has no rule, so only what stands
directly in a program takes part.

A `Resolver` handles any number of programs one after another.  Each resolution starts with fresh
counters, and with a fresh tracer unless the resolver was given one to share; the context of the
last resolution can be looked at afterwards.  A value that is no node is handed back, and leaves
that context as it was.
-/

namespace ComponentLookup

open Json

/-- What the rules work on during a walk. -/
structure RuleState where
  context : Context
  registry : Registry

/-- Hands a node to the rule for its type. -/
def dispatch (node : Json) (s : RuleState) : Reply RuleState ShapeError :=
  match node.kind? with
  | some "Program" => { node, edits := [], state := s, outcome := .ok .descend }
  | some kind =>
    let (rule?, registry) := s.registry.find kind
    match rule? with
    | none => { node, edits := [], state := { s with registry }, outcome := .ok .skip }
    | some rule =>
      let reply := rule.apply node s.context
      { node := reply.node, edits := [], state := { context := reply.context, registry }
        outcome := reply.outcome.map (·.getD .descend) }
  | none => { node, edits := [], state := s, outcome := .ok .skip }

/-- The visitor that applies the rules. -/
def ruleVisitor (registry : Registry) : Visitor RuleState ShapeError where
  enter := fun _ node s => dispatch node s
  leave := fun _ _ s => s
  growth := registry.growth

/-- A program after the rules were applied to it. -/
structure Applied where
  tree : Json
  context : Context
  registry : Registry
  failure : Option ShapeError

/-- Applies the rules to a program, inside a phase of their own. -/
def applyRules (config : Config) (tracer : Tracer) (registry : Registry) (tree : Json) : Applied :=
  let tracer := tracer.startPhase "Resolve Components" "Rewriting missing component assertions"
  let walked := walk (ruleVisitor registry) tree ⟨Context.fresh config tracer, registry⟩
  let ctx := walked.state.context.traced (·.endPhase)
  match walked.failure with
  | some e => ⟨walked.node, ctx, walked.state.registry, some e⟩
  | none =>
    let ctx := ctx.report .debug ("Rewrite finished: " ++ ctx.stats.toJson.quoted)
    ⟨walked.node, ctx, walked.state.registry, none⟩

/-- Resolves the components of programs under one configuration. -/
structure Resolver where
  config : Config
  /-- The tracer shared by all resolutions, if there is one. -/
  shared : Option Tracer
  /-- The context of the last resolution. -/
  last : Option Context

/-- The result of one resolution. -/
structure Resolution where
  tree : Json
  resolver : Resolver
  registry : Registry
  log : List Log.Record
  failure : Option ShapeError

namespace Resolver

/-- A resolver that has not handled a program yet. -/
def new (config : Config) (shared : Option Tracer) : Resolver := { config, shared, last := none }

/-- The tracer of the next resolution. -/
def nextTracer (r : Resolver) : Tracer :=
  match r.shared with
  | some tracer => tracer
  | none => Tracer.empty r.config.trace

/-- Resolves the components of a program. -/
def resolve (r : Resolver) (registry : Registry) (tree : Json) : Resolution :=
  if tree.isNode then
    let applied := applyRules r.config r.nextTracer registry tree
    { tree := applied.tree
      resolver := { r with
        shared := r.shared.map fun _ => applied.context.tracer
        last := some applied.context }
      registry := applied.registry
      log := applied.context.log
      failure := applied.failure }
  else { tree, resolver := r, registry, log := [], failure := none }

end Resolver

/-- Resolves the components of one program under a configuration. -/
def resolveMissingComponents (config : Config) (registry : Registry) (tree : Json) : Resolution :=
  (Resolver.new config none).resolve registry tree

/-- The transformer that a document compiler calls with its compiled program. -/
def transformer (config : Config) : Registry → Json → Resolution :=
  fun registry tree => (Resolver.new config none).resolve registry tree

end ComponentLookup
