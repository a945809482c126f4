import ComponentLookup.Node.Render
import ComponentLookup.Rule.Basic

/-!
# Declared rules

A rule given as data: it counts, assigns fields of the node, traces an inspection and a warning,
each if it is told to, and answers with a fixed action.
-/

namespace ComponentLookup

/-- A rule as data. -/
structure DeclaredRule where
  name : String
  action : Option Action
  count : Option (String × Int)
  set : Fields
  /-- The outcome of an inspection to record. -/
  inspect : Option String
  /-- A warning to record. -/
  warn : Option String

namespace DeclaredRule

variable (declared : DeclaredRule)

/-- Handles a node. -/
def apply (node : Json) (ctx : Context) : RuleReply :=
  let ctx := match declared.count with
    | some (key, amount) => ctx.count key amount
    | none => ctx
  let node := declared.set.foldl (fun n field => n.set field.1 field.2) node
  let ctx := match declared.inspect with
    | some outcome => ctx.traced (·.logInspection (Node.render node) outcome "")
    | none => ctx
  let ctx := match declared.warn with
    | some message => ctx.traced (·.logWarning message)
    | none => ctx
  ⟨node, ctx, .ok declared.action⟩

/-- The rule that the data describe. -/
def rule : Rule where
  name := declared.name
  apply := declared.apply
  growth := Json.sizeFields declared.set

end DeclaredRule

end ComponentLookup
