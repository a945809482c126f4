/-!
# Log records

The levels of messages, in order of weight, and the records that a run leaves behind.
-/

namespace ComponentLookup

namespace Log

/-- How much a message weighs. -/
inductive Level where
  | notSet
  | debug
  | info
  | success
  | warning
  | error
  | critical
  deriving DecidableEq

/-- The weight of a level; success stands between information and warning. -/
def Level.weight : Level → Nat
  | .notSet => 0
  | .debug => 10
  | .info => 20
  | .success => 25
  | .warning => 30
  | .error => 40
  | .critical => 50

/-- The name of a level. -/
def Level.name : Level → String
  | .notSet => "NOTSET"
  | .debug => "DEBUG"
  | .info => "INFO"
  | .success => "SUCCESS"
  | .warning => "WARNING"
  | .error => "ERROR"
  | .critical => "CRITICAL"

/-- The level of a name. -/
def Level.ofName? : String → Option Level
  | "NOTSET" => some .notSet
  | "DEBUG" => some .debug
  | "INFO" => some .info
  | "SUCCESS" => some .success
  | "WARNING" | "WARN" => some .warning
  | "ERROR" => some .error
  | "CRITICAL" | "FATAL" => some .critical
  | _ => none

/-- A message with its level. -/
structure Record where
  level : Level
  message : String
  deriving DecidableEq

/-- The records that weigh at least as much as a level. -/
def atLeast (level : Level) (records : List Record) : List Record :=
  records.filter fun r => level.weight ≤ r.level.weight

end Log

end ComponentLookup
