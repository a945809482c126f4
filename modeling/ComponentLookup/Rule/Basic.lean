import ComponentLookup.Rule.Context
import ComponentLookup.Walk.Basic

/-!
# Rules

A rule handles the nodes of one type: it may edit the node, count, trace and log, and it says
whether the walk descends into the node, passes it by or removes it.  A rule that says nothing lets
the walk descend.
-/

namespace ComponentLookup

/-- What a rule makes of a node. -/
structure RuleReply where
  node : Json
  context : Context
  outcome : Except ShapeError (Option Action)

/-- A named rule. -/
structure Rule where
  name : String
  apply : Json → Context → RuleReply
  /-- The size of what the rule adds to nodes that the walk then enters. -/
  growth : Nat

end ComponentLookup
