import ComponentLookup.Node.Basic

/-!
# Walking a tree

`walk` visits the nodes of a tree depth first, parents before children and siblings in order.  A
visitor is shown each node with its place (`Site`) and answers with an action: to descend into the
node, to pass it by, or to remove it (`Action`).  With its answer it may hand back an edited node,
and it may edit the fields of the parent.

The rules that fix what is visited when edits and removals happen on the way:

* the child slots of a node are listed when the visit of its children begins; a later assignment to
  a field of the parent detaches the listed value from the tree, and the walk goes on inside the
  detached value;
* a list is walked by index over its present items, so that items added behind the index are visited
  too;
* removing a list item deletes what stands at the current index, and removing a single child puts
  null into its field;
* the root has no place to be removed from and is passed by instead.

A visitor may fail.  The walk then stops, and the tree keeps the edits made so far.
-/

namespace ComponentLookup

open Json

/-! ### Visitors -/

/-- What a visitor asks for after it has seen a node. -/
inductive Action where
  | descend
  | skip
  | remove
  deriving DecidableEq

/-- Where a node stands. -/
inductive Site where
  | root
  | field (parent : Json) (key : String)
  | item (parent : Json) (key : String) (index : Nat)

namespace Site

/-- The node above. -/
def parent? : Site → Option Json
  | .root => none
  | .field parent _ => some parent
  | .item parent _ _ => some parent

/-- The field of the parent. -/
def key? : Site → Option String
  | .root => none
  | .field _ key => some key
  | .item _ key _ => some key

/-- The position in the list of siblings. -/
def index? : Site → Option Nat
  | .root => none
  | .field _ _ => none
  | .item _ _ index => some index

end Site

/-- An edit of the parent of the visited node. -/
inductive ParentEdit where
  /-- Assigns a field of the parent. -/
  | assign (key : String) (value : Json)
  /-- Adds an item behind the siblings. -/
  | append (value : Json)
  /-- Adds an item in front of the siblings. -/
  | prepend (value : Json)

/-- The answer of a visitor that works on a state `σ` and fails with `ε`. -/
structure Reply (σ ε : Type) where
  /-- The node, as the visitor leaves it. -/
  node : Json
  /-- Edits of the parent, in order. -/
  edits : List ParentEdit
  state : σ
  outcome : Except ε Action

/-- Shown each node before its children, and each one that stays again after them. -/
structure Visitor (σ ε : Type) where
  enter : Site → Json → σ → Reply σ ε
  leave : Site → Json → σ → σ
  /-- The number of values that the visitor may add, directly and in what it has added, for each
  value of the tree; a visitor that adds nothing to what is entered needs none. -/
  growth : Nat

/-! ### Parents under visit -/

/-- A node while its children are visited. -/
structure Host where
  node : Json
  /-- The fields assigned since the slots were listed. -/
  replaced : List String

namespace Host

/-- The value listed for a field is still the one in the tree. -/
def isAttached (host : Host) (key : String) : Bool := !host.replaced.contains key

/-- Assigns a field and so detaches the value listed for it. -/
def assign (host : Host) (key : String) (value : Json) : Host :=
  { node := host.node.set key value, replaced := key :: host.replaced }

/-- Puts a visited value back into its field, if it is still attached. -/
def store (host : Host) (key : String) (value : Json) : Host :=
  if host.isAttached key then { host with node := host.node.set key value } else host

/-- Changes the list that a field holds at present. -/
def modifyItems (host : Host) (key : String) (f : List Json → List Json) : Host :=
  match host.node.get? key with
  | some (.arr items) => { host with node := host.node.set key (.arr (f items)) }
  | _ => host

/-- Carries out the edits that concern a parent with a single child under visit; there are no
siblings to add to. -/
def applyToField (host : Host) : ParentEdit → Host
  | .assign key value => host.assign key value
  | .append _ => host
  | .prepend _ => host

end Host

/-- A list of siblings under visit: its parent, its present items, and the position at which the
visited one stands. -/
structure Row where
  host : Host
  items : List Json
  position : Nat

namespace Row

/-- Carries out an edit of the parent of an item.  Siblings are added to the list under visit, or to
the new value of the field once that was assigned. -/
def apply (key : String) (row : Row) : ParentEdit → Row
  | .assign field value => { row with host := row.host.assign field value }
  | .append value =>
    if row.host.isAttached key then { row with items := row.items ++ [value] }
    else { row with host := row.host.modifyItems key (· ++ [value]) }
  | .prepend value =>
    if row.host.isAttached key then
      { row with items := value :: row.items, position := row.position + 1 }
    else { row with host := row.host.modifyItems key (value :: ·) }

/-- The parent with the present items in its field. -/
def parent (key : String) (row : Row) : Host := row.host.store key (.arr row.items)

/-- The row with the visited item replaced. -/
def putItem (row : Row) (item : Json) : Row :=
  { row with items := row.items.set row.position item }

end Row

/-! ### The walk -/

/-- A tree after a walk, with the final state and the failure that ended it. -/
structure Walked (σ ε : Type) where
  node : Json
  state : σ
  failure : Option ε

/-- A parent after the walk of its children. -/
structure WalkedHost (σ ε : Type) where
  host : Host
  state : σ
  failure : Option ε

/-- The child slots of a node with their values, in order. -/
def listedSlots : Json → List (String × Json)
  | .obj fields => fields.filter fun (key, value) => key != "type" && (Slot.of? value).isSome
  | _ => []

variable {σ ε : Type}

mutual

/-- Visits the children of a node. -/
def walkChildren (visitor : Visitor σ ε) : Nat → Json → σ → Walked σ ε
  | 0, node, s => ⟨node, s, none⟩
  | fuel + 1, node, s =>
    let walked := walkSlots visitor fuel ⟨node, []⟩ (listedSlots node) s
    ⟨walked.host.node, walked.state, walked.failure⟩

/-- Visits the listed slots of a node one after another. -/
def walkSlots (visitor : Visitor σ ε) : Nat → Host → List (String × Json) → σ → WalkedHost σ ε
  | 0, host, _, s => ⟨host, s, none⟩
  | _ + 1, host, [], s => ⟨host, s, none⟩
  | fuel + 1, host, (key, .arr items) :: slots, s =>
    let walked := walkItems visitor fuel host key items 0 s
    match walked.failure with
    | some e => ⟨walked.host, walked.state, some e⟩
    | none => walkSlots visitor fuel walked.host slots walked.state
  | fuel + 1, host, (key, child) :: slots, s =>
    let reply := visitor.enter (.field host.node key) child s
    let host := reply.edits.foldl Host.applyToField host
    match reply.outcome with
    | .error e => ⟨host.store key reply.node, reply.state, some e⟩
    | .ok .remove =>
      walkSlots visitor fuel { host with node := host.node.set key .null } slots reply.state
    | .ok .skip =>
      let host := host.store key reply.node
      walkSlots visitor fuel host slots
        (visitor.leave (.field host.node key) reply.node reply.state)
    | .ok .descend =>
      let walked := walkChildren visitor fuel reply.node reply.state
      let host := host.store key walked.node
      match walked.failure with
      | some e => ⟨host, walked.state, some e⟩
      | none =>
        walkSlots visitor fuel host slots
          (visitor.leave (.field host.node key) walked.node walked.state)

/-- Visits the items of a list from an index on. -/
def walkItems (visitor : Visitor σ ε) :
    Nat → Host → String → List Json → Nat → σ → WalkedHost σ ε
  | 0, host, key, items, _, s => ⟨host.store key (.arr items), s, none⟩
  | fuel + 1, host, key, items, index, s =>
    match items[index]? with
    | none => ⟨host.store key (.arr items), s, none⟩
    | some item =>
      if item.isNode then
        let parent := host.store key (.arr items)
        let reply := visitor.enter (.item parent.node key index) item s
        let row : Row := ⟨host, items.set index reply.node, index⟩
        let row := reply.edits.foldl (Row.apply key) row
        match reply.outcome with
        | .error e => ⟨row.parent key, reply.state, some e⟩
        | .ok .remove =>
          walkItems visitor fuel row.host key (row.items.eraseIdx index) index reply.state
        | .ok .skip =>
          walkItems visitor fuel row.host key row.items (index + 1)
            (visitor.leave (.item (row.parent key).node key index) reply.node reply.state)
        | .ok .descend =>
          let walked := walkChildren visitor fuel reply.node reply.state
          let row := row.putItem walked.node
          match walked.failure with
          | some e => ⟨row.parent key, walked.state, some e⟩
          | none =>
            walkItems visitor fuel row.host key row.items (index + 1)
              (visitor.leave (.item (row.parent key).node key index) walked.node walked.state)
      else walkItems visitor fuel host key items (index + 1) s

end

/-- Enough fuel to enter every value of a tree and what the visitor may add to it. -/
def walkFuel (visitor : Visitor σ ε) (tree : Json) : Nat :=
  2 * (tree.size + 1) * (visitor.growth + 1)

/-- Walks a tree from its root. -/
def walk (visitor : Visitor σ ε) (tree : Json) (s : σ) : Walked σ ε :=
  let reply := visitor.enter .root tree s
  match reply.outcome with
  | .error e => ⟨reply.node, reply.state, some e⟩
  | .ok .descend =>
    let walked := walkChildren visitor (walkFuel visitor reply.node) reply.node reply.state
    match walked.failure with
    | some e => ⟨walked.node, walked.state, some e⟩
    | none => ⟨walked.node, visitor.leave .root walked.node walked.state, none⟩
  | .ok _ => ⟨reply.node, visitor.leave .root reply.node reply.state, none⟩

end ComponentLookup
