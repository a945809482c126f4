import ComponentLookup.Rule.RenderFunction
import ComponentLookup.Rule.RuntimeImport

/-!
# The rule registry

The rules by the node type that they handle, at most one for each.  The built-in rules join on the
first look-up; they take only node types that are still free, so that an earlier registration wins.

Each built-in rule announces the node type under which it joins.  Registering a built-in rule by
hand changes what it announces, and clearing the registry does not change that back.
-/

namespace ComponentLookup

/-- The rules that come with the library. -/
inductive BuiltinRule where
  | runtimeImport
  | renderFunction
  deriving DecidableEq

/-- The rule itself. -/
def BuiltinRule.rule : BuiltinRule → Rule
  | .runtimeImport => RuntimeImport.rule
  | .renderFunction => RenderFunction.rule

/-- The rules by node type, with the types that the built-in rules announce. -/
structure Registry where
  rules : List (String × Rule)
  /-- The built-in rules have joined since the registry was last cleared. -/
  loaded : Bool
  importType : String
  functionType : String

namespace Registry

/-- The registry at the start. -/
def initial : Registry :=
  { rules := [], loaded := false
    importType := "ImportDeclaration", functionType := "FunctionDeclaration" }

/-- The rule in a list for a node type. -/
def lookup (kind : String) : List (String × Rule) → Option Rule
  | [] => none
  | (k, rule) :: rest => if k = kind then some rule else lookup kind rest

/-- Puts a rule into a list, over the one that was there. -/
def insert (kind : String) (rule : Rule) : List (String × Rule) → List (String × Rule)
  | [] => [(kind, rule)]
  | (k, r) :: rest => if k = kind then (k, rule) :: rest else (k, r) :: insert kind rule rest

/-- Puts a rule into a list unless its node type is taken. -/
def insertNew (kind : String) (rule : Rule) (rules : List (String × Rule)) :
    List (String × Rule) :=
  if (lookup kind rules).isSome then rules else insert kind rule rules

variable (registry : Registry)

/-- Registers a rule for a node type. -/
def register (kind : String) (rule : Rule) : Registry :=
  { registry with rules := insert kind rule registry.rules }

/-- Registers a built-in rule for a node type, which it announces from then on. -/
def registerBuiltin (kind : String) (builtin : BuiltinRule) : Registry :=
  match builtin with
  | .runtimeImport => { registry.register kind builtin.rule with importType := kind }
  | .renderFunction => { registry.register kind builtin.rule with functionType := kind }

/-- Lets the built-in rules join. -/
def load : Registry :=
  { registry with
    rules := insertNew registry.functionType BuiltinRule.renderFunction.rule
      (insertNew registry.importType BuiltinRule.runtimeImport.rule registry.rules)
    loaded := true }

/-- The number of node types that have a rule. -/
def size : Nat := registry.rules.length

/-- The rule for a node type, after the built-in rules have joined. -/
def find (kind : String) : Option Rule × Registry :=
  let registry := if registry.loaded then registry else registry.load
  (lookup kind registry.rules, registry)

/-- Forgets all rules. -/
def clear : Registry := { registry with rules := [], loaded := false }

/-- The node types with the names of their rules, in the order of the types. -/
def listing : List (String × String) :=
  (registry.rules.map fun (kind, rule) => (kind, rule.name)).mergeSort
    fun a b => decide (a.1 ≤ b.1)

/-- The number of values that the rules may add for each value of a tree.  What one rule adds can be
handed to the next, and a chain in which a rule comes twice has no end. -/
def growth : Nat := registry.rules.foldl (fun acc (_, rule) => acc * (rule.growth + 1)) 1

end Registry

end ComponentLookup
