import ComponentLookup.Config.Basic
import ComponentLookup.Log
import ComponentLookup.Trace

/-!
# The context of a resolution

What a rule can see and change besides its node: the configuration, the counters, the tracer and the
log.  The four counters of the built-in rules come first and are always there; a rule may count
under names of its own, which follow in the order of their first use.
-/

namespace ComponentLookup

/-- Counters by name, in order. -/
abbrev Stats := List (String × Int)

namespace Stats

/-- The value of a counter; one that was never used stands at zero. -/
def get : Stats → String → Int
  | [], _ => 0
  | (k, n) :: rest, key => if k = key then n else get rest key

/-- Adds to a counter, at its place or as a new one at the end. -/
def count (key : String) (amount : Int) : Stats → Stats
  | [] => [(key, amount)]
  | (k, n) :: rest => if k = key then (k, n + amount) :: rest else (k, n) :: count key amount rest

/-- The counters at the start of a resolution. -/
def initial : Stats :=
  [("imports_augmented", 0), ("declarations_relaxed", 0), ("checks_rewritten", 0),
    ("helpers_removed", 0)]

/-- The counters as an object. -/
def toJson (stats : Stats) : Json := .obj (stats.map fun (k, n) => (k, .int n))

end Stats

/-- The surroundings of the rules during one resolution. -/
structure Context where
  config : Config
  stats : Stats
  tracer : Tracer
  /-- The messages logged so far. -/
  log : List Log.Record
  deriving DecidableEq

namespace Context

/-- The context at the start of a resolution. -/
def fresh (config : Config) (tracer : Tracer) : Context :=
  { config, stats := Stats.initial, tracer, log := [] }

variable (ctx : Context)

/-- Adds to a counter. -/
def count (key : String) (amount : Int) : Context :=
  { ctx with stats := ctx.stats.count key amount }

/-- Changes the tracer. -/
def traced (f : Tracer → Tracer) : Context := { ctx with tracer := f ctx.tracer }

/-- Logs a message. -/
def report (level : Log.Level) (message : String) : Context :=
  { ctx with log := ctx.log ++ [{ level, message }] }

end Context

end ComponentLookup
