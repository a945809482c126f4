import ComponentLookup.Proofs.Resolver.Phases
import ComponentLookup.Proofs.Walk.CallSequence

/-!
# Which rules are called

Any rules may be registered.  As long as the rules that nodes are handed to give each node back as
it is and answer each time (`Registry.LooksOn`), what they answer fixes which of them are called and
on which nodes.

The calls are written down where they are made (`dispatchNoted`), and **the walk does not notice**
(`simulates_noting`).  `RuleCallSequence` says what they are like: a rule is called on a node just
if the node is no program, its type has a rule, and every node above it is a program or one whose
own rule lets the walk descend.

`Resolver.ruleCallSequence_resolve` says so of every resolution, and that **the tree is left without
the nodes that their rules remove**.
-/

namespace ComponentLookup

open Json

/-! ### Rules that look on -/

/-- The rule gives each node back as it is and answers each time. -/
structure Rule.LooksOn (rule : Rule) : Prop where
  node_eq : ∀ v ctx, v.isNode = true → (rule.apply v ctx).node = v
  answers : ∀ v ctx, v.isNode = true → ∃ action?, (rule.apply v ctx).outcome = .ok action?

/-- Every rule that a node can be handed to looks on. -/
def Registry.LooksOn (registry : Registry) : Prop :=
  ∀ v rule, registry.ruleFor? v = some rule → rule.LooksOn

variable {registry : Registry} {v : Json} {s : RuleState}

/-- A dispatch to such a rule. -/
theorem Registry.LooksOn.dispatch (h : registry.LooksOn)
    (hs : s.registry.ruleFor? = registry.ruleFor?) (v : Json) :
    (dispatch v s).node = v ∧ (dispatch v s).edits = [] ∧
      ∃ action, (dispatch v s).outcome = .ok action := by
  cases hrule : s.registry.ruleFor? v with
  | none =>
    obtain ⟨registry', -, heq⟩ := dispatch_of_ruleFor?_eq_none hrule
    rw [heq]
    exact ⟨rfl, rfl, _, rfl⟩
  | some rule =>
    obtain ⟨registry', -, heq⟩ := dispatch_of_ruleFor?_eq_some hrule
    have hv := isNode_of_ruleFor? hrule
    have hlooks := h v rule (hs ▸ hrule)
    obtain ⟨action?, hanswer⟩ := hlooks.answers v s.context hv
    rw [heq, hanswer]
    exact ⟨hlooks.node_eq v s.context hv, rfl, _, rfl⟩

theorem Registry.LooksOn.visitor (h : registry.LooksOn) :
    (ruleVisitor registry).LooksOn fun s => s.registry.ruleFor? = registry.ruleFor? where
  node_eq _ v _ hs := (h.dispatch hs v).1
  edits_eq _ v _ hs := (h.dispatch hs v).2.1
  answers _ v _ hs := (h.dispatch hs v).2.2
  enter _ v s hs := (ruleFor?_dispatch v s).trans hs
  leave _ _ _ hs := hs

/-! ### Writing down the calls -/

/-- One call of a rule. -/
structure RuleCall where
  rule : Rule
  node : Json
  /-- What the rule asks for; one that says nothing asks to descend. -/
  outcome : Except ShapeError Action

/-- The dispatch of a node that writes down the call of a rule. -/
def dispatchNoted (node : Json) (s : RuleState × List RuleCall) :
    Reply (RuleState × List RuleCall) ShapeError :=
  match node.kind? with
  | some "Program" => { node, edits := [], state := s, outcome := .ok .descend }
  | some kind =>
    let (rule?, registry) := s.1.registry.find kind
    match rule? with
    | none => { node, edits := [], state := ({ s.1 with registry }, s.2), outcome := .ok .skip }
    | some rule =>
      let reply := rule.apply node s.1.context
      let outcome := reply.outcome.map (·.getD .descend)
      { node := reply.node, edits := []
        state := ({ context := reply.context, registry }, s.2 ++ [⟨rule, node, outcome⟩])
        outcome }
  | none => { node, edits := [], state := s, outcome := .ok .skip }

/-- The visitor that applies the rules and writes down their calls. -/
def notingVisitor (registry : Registry) : Visitor (RuleState × List RuleCall) ShapeError where
  enter := fun _ node s => dispatchNoted node s
  leave := fun _ _ s => s
  growth := registry.growth

theorem enter_noting (site : Site) (v : Json) (s : RuleState × List RuleCall) :
    (notingVisitor registry).enter site v s = dispatchNoted v s := rfl

/-- The calls of rules in a resolution. -/
def Resolver.ruleCalls (r : Resolver) (registry : Registry) (tree : Json) : List RuleCall :=
  let tracer := r.nextTracer.startPhase "Resolve Components"
    "Rewriting missing component assertions"
  (walk (notingVisitor registry) tree (⟨Context.fresh r.config tracer, registry⟩, [])).state.2

/-- The dispatch is the same, and one call is written down if there is a rule for the node. -/
theorem dispatchNoted_eq (v : Json) (s : RuleState × List RuleCall) :
    dispatchNoted v s =
      { node := (dispatch v s.1).node, edits := (dispatch v s.1).edits
        state := ((dispatch v s.1).state, s.2 ++ ((s.1.registry.ruleFor? v).map fun rule =>
          ⟨rule, v, (dispatch v s.1).outcome⟩).toList)
        outcome := (dispatch v s.1).outcome } := by
  cases hkind : v.kind? with
  | none =>
    have hnone : s.1.registry.ruleFor? v = none := by rw [Registry.ruleFor?, hkind]; rfl
    simp only [dispatchNoted, dispatch, hkind, hnone, Option.map_none, Option.toList_none,
      List.append_nil]
  | some kind =>
    have hasked : s.1.registry.ruleFor? v =
        if kind = "Program" then none else (s.1.registry.find kind).1 := by
      rw [Registry.ruleFor?, hkind, Option.bind_some]
    by_cases hp : kind = "Program"
    · subst hp
      simp only [dispatchNoted, dispatch, hkind, hasked, if_true, Option.map_none,
        Option.toList_none, List.append_nil]
    · rw [if_neg hp] at hasked
      cases hrule : (s.1.registry.find kind).1 with
      | none =>
        rw [hrule] at hasked
        simp only [dispatchNoted, dispatch, hkind, hrule, hasked, Option.map_none,
          Option.toList_none, List.append_nil]
      | some rule =>
        rw [hrule] at hasked
        simp only [dispatchNoted, dispatch, hkind, hrule, hasked, Option.map_some,
          Option.toList_some]

/-- **The walk is the same** whether or not the calls are written down. -/
theorem simulates_noting (registry : Registry) :
    (notingVisitor registry).Simulates (ruleVisitor registry) fun s' s => s'.1 = s where
  enter := by
    rintro site v s' _ rfl
    rw [enter_noting, dispatchNoted_eq]
    exact ⟨rfl, rfl, rfl, rfl⟩
  leave := by
    rintro site v s' _ rfl
    rfl
  growth_eq := rfl

/-! ### Rule calls among the calls of a walk -/

namespace Registry

variable (registry)

/-- The call of a rule that a call of the walk leads to. -/
def asked : Call ShapeError → Option RuleCall
  | .enter _ v outcome => (registry.ruleFor? v).map fun rule => ⟨rule, v, outcome⟩
  | .leave .. => none

/-- A node that no rule is asked for is descended into if it is a program, and else passed by. -/
def Fits : Call ShapeError → Prop
  | .enter _ v outcome =>
    registry.ruleFor? v = none → outcome = .ok (if v.isKind "Program" then .descend else .skip)
  | .leave .. => True

/-- The rule calls that have been written down are those among the calls of the walk. -/
structure NotesCalls (s' : RuleState × List RuleCall) (s : RuleState × List (Call ShapeError)) :
    Prop where
  state_eq : s'.1 = s.1
  ruleFor?_eq : s.1.registry.ruleFor? = registry.ruleFor?
  log_eq : s'.2 = s.2.filterMap registry.asked
  fits : ∀ call ∈ s.2, registry.Fits call

theorem simulates_recorded :
    (notingVisitor registry).Simulates (ruleVisitor registry).recorded registry.NotesCalls where
  enter := by
    rintro site v ⟨s, log⟩ ⟨_, calls⟩ ⟨rfl, hruleFor, hlog, hfits⟩
    have hasked : ((s.registry.ruleFor? v).map fun rule => (⟨rule, v,
        (ComponentLookup.dispatch v s).outcome⟩ : RuleCall)).toList =
          [Call.enter site v (ComponentLookup.dispatch v s).outcome].filterMap registry.asked := by
      rw [hruleFor, List.filterMap_cons, List.filterMap_nil, asked]
      cases registry.ruleFor? v <;> rfl
    rw [enter_noting, dispatchNoted_eq]
    refine ⟨rfl, rfl, rfl, rfl, (ruleFor?_dispatch v s).trans hruleFor, ?_,
      List.forall_mem_append.2 ⟨hfits, List.forall_mem_singleton.2 fun hnone => ?_⟩⟩
    · rw [Visitor.enter_recorded, List.filterMap_append]
      exact congrArg₂ (· ++ ·) hlog hasked
    · rw [← hruleFor] at hnone
      obtain ⟨_, -, heq⟩ := dispatch_of_ruleFor?_eq_none hnone
      exact congrArg Reply.outcome heq
  leave := by
    rintro site v ⟨s, log⟩ ⟨_, calls⟩ ⟨rfl, hruleFor, hlog, hfits⟩
    refine ⟨rfl, hruleFor, ?_,
      List.forall_mem_append.2 ⟨hfits, List.forall_mem_singleton.2 trivial⟩⟩
    rw [Visitor.leave_recorded, List.filterMap_append]
    exact hlog.trans (List.append_nil _).symm
  growth_eq := rfl

end Registry

namespace RuleCall

/-- A rule let the walk descend into the node at the path. -/
def Descends (calls : List (Path × RuleCall)) (path : Path) : Prop :=
  ∃ call ∈ calls, call.1 = path ∧ call.2.outcome = .ok .descend

/-- The rule asks for the node to be removed. -/
def removes (call : RuleCall) : Bool :=
  match call.outcome with
  | .ok .remove => true
  | _ => false

/-- The paths of the nodes whose rules ask for them to be removed. -/
def removed (calls : List (Path × RuleCall)) : Path → Bool := fun path =>
  calls.any fun call => decide (call.1 = path) && call.2.removes

/-- The rule calls among some calls, with the same paths. -/
def among (registry : Registry) (calls : List (Path × Call ShapeError)) :
    List (Path × RuleCall) :=
  calls.filterMap fun call => (registry.asked call.2).map (Prod.mk call.1)

variable {tree u : Json} {path : Path} {calls : List (Path × Call ShapeError)}

theorem removes_iff {call : RuleCall} : call.removes = true ↔ call.outcome = .ok .remove := by
  unfold removes
  split
  · rename_i heq
    exact iff_of_true rfl heq
  · rename_i hne
    exact iff_of_false Bool.false_ne_true hne

theorem map_snd_among :
    (among registry calls).map Prod.snd = (calls.map Prod.snd).filterMap registry.asked := by
  rw [among, List.map_filterMap, List.filterMap_map]
  refine List.filterMap_congr fun call _ => ?_
  rw [Option.map_map]
  exact congrFun Option.map_id _

theorem mem_among {call : Path × RuleCall} : call ∈ among registry calls ↔
    (∃ site, (call.1, Call.enter site call.2.node call.2.outcome) ∈ calls) ∧
      registry.ruleFor? call.2.node = some call.2.rule := by
  rw [among, List.mem_filterMap]
  constructor
  · rintro ⟨⟨path, call'⟩, hcall', heq⟩
    obtain ⟨rc, hasked, rfl⟩ := Option.map_eq_some_iff.1 heq
    cases call' with
    | enter site v outcome =>
      obtain ⟨rule, hrule, rfl⟩ := Option.map_eq_some_iff.1 hasked
      exact ⟨⟨site, hcall'⟩, hrule⟩
    | leave site v => cases hasked
  · rintro ⟨⟨site, hcall'⟩, hrule⟩
    refine ⟨_, hcall', ?_⟩
    rw [Registry.asked, hrule]
    rfl

/-- The nodes on which rules are called are those entered nodes for which there is a rule. -/
theorem nodes_among :
    (among registry calls).map (fun call => (call.1, call.2.node)) =
      (Call.entered calls).filter fun place => (registry.ruleFor? place.2).isSome := by
  rw [among, Call.entered, List.map_filterMap, List.filter_filterMap]
  refine List.filterMap_congr fun call _ => ?_
  obtain ⟨path, call⟩ := call
  cases call with
  | enter site v outcome =>
    simp only [Registry.asked, Option.filter]
    cases registry.ruleFor? v <;> rfl
  | leave site v => rfl

end RuleCall

namespace CallSequence

variable {tree u v : Json} {path : Path} {calls : List (Path × Call ShapeError)}

/-- Whether the walk descends into a node is up to its own rule, except for programs. -/
theorem descends_iff (h : CallSequence tree calls) (hfits : ∀ call ∈ calls, registry.Fits call.2)
    (hu : (path, u) ∈ Call.entered calls) : Call.Answered calls path .descend ↔
      u.isKind "Program" = true ∨ RuleCall.Descends (RuleCall.among registry calls) path := by
  constructor
  · rintro ⟨site, u', hcall⟩
    cases List.inj_on_of_nodup_map h.once (Call.mem_entered.2 ⟨site, _, hcall⟩) hu rfl
    cases hrule : registry.ruleFor? u with
    | none =>
      have hout := hfits _ hcall hrule
      split_ifs at hout with hp
      · exact .inl hp
      · cases hout
    | some rule =>
      exact .inr ⟨(path, ⟨rule, u, .ok .descend⟩), RuleCall.mem_among.2 ⟨⟨site, hcall⟩, hrule⟩,
        rfl, rfl⟩
  · rintro (hp | ⟨call, hcall, rfl, hout⟩)
    · obtain ⟨site, outcome, hcall⟩ := Call.mem_entered.1 hu
      have hout := hfits _ hcall (Registry.ruleFor?_program hp)
      rw [if_pos hp] at hout
      exact ⟨site, u, hout ▸ hcall⟩
    · obtain ⟨⟨site, hcall⟩, -⟩ := RuleCall.mem_among.1 hcall
      exact ⟨site, _, hout ▸ hcall⟩

/-- A node is entered just if all nodes above it are programs, or nodes into which their own rules
let the walk descend. -/
theorem entered_iff_descends (h : CallSequence tree calls) (hd : tree.DistinctKeys)
    (hfits : ∀ call ∈ calls, registry.Fits call.2) :
    (path, v) ∈ Call.entered calls ↔ NodeAt tree path v ∧
      ∀ p u, NodeAt tree p u → p <+: path → p ≠ path →
        u.isKind "Program" = true ∨ RuleCall.Descends (RuleCall.among registry calls) p := by
  -- by induction on the depth, since a program above counts only if it is entered itself
  induction hn : path.length using Nat.strong_induction_on generalizing path v with
  | h n ih =>
    subst hn
    constructor
    · intro hmem
      obtain ⟨hat, hall⟩ := (h.entered_iff path v).1 hmem
      refine ⟨hat, fun p u hp hpre hne => ?_⟩
      obtain ⟨site, u', hcall⟩ := hall p u hp hpre hne
      have hentered := Call.mem_entered.2 ⟨site, _, hcall⟩
      cases ((h.entered_iff p u').1 hentered).1.eq hd hp
      exact (h.descends_iff hfits hentered).1 ⟨site, _, hcall⟩
    · rintro ⟨hat, hall⟩
      refine (h.entered_iff path v).2 ⟨hat, fun p u hp hpre hne => ?_⟩
      have hlt : p.length < path.length :=
        Nat.lt_of_le_of_ne hpre.length_le fun heq => hne (hpre.eq_of_length heq)
      have hentered : (p, u) ∈ Call.entered calls :=
        (ih _ hlt rfl).2 ⟨hp, fun q w hq hqp _ => hall q w hq (hqp.trans hpre) fun heq =>
          absurd (heq ▸ hqp).length_le (Nat.not_le_of_lt hlt)⟩
      exact (h.descends_iff hfits hentered).2 (hall p u hp hpre hne)

/-- Inside the tree, just the nodes are removed whose rules ask for it. -/
theorem removed_among (h : CallSequence tree calls) (hfits : ∀ call ∈ calls, registry.Fits call.2)
    (hne : path ≠ []) :
    RuleCall.removed (RuleCall.among registry calls) path = Call.removed calls path := by
  rw [Bool.eq_iff_iff, Call.removed_eq_true_iff, RuleCall.removed, List.any_eq_true]
  constructor
  · rintro ⟨call, hcall, hgone⟩
    obtain ⟨hpath, hremoves⟩ := Bool.and_eq_true_iff.1 hgone
    obtain ⟨⟨site, hcall⟩, -⟩ := RuleCall.mem_among.1 hcall
    rw [of_decide_eq_true hpath, RuleCall.removes_iff.1 hremoves] at hcall
    exact ⟨_, hcall, Call.removes_iff.2 ⟨_, _, rfl, h.site_ne_root hcall hne⟩⟩
  · rintro ⟨call, hcall, hremoves⟩
    obtain ⟨site, v, rfl, -⟩ := Call.removes_iff.1 hremoves
    cases hrule : registry.ruleFor? v with
    | none =>
      have hout := hfits _ hcall hrule
      split_ifs at hout <;> cases hout
    | some rule =>
      exact ⟨(path, ⟨rule, v, .ok .remove⟩), RuleCall.mem_among.2 ⟨⟨site, hcall⟩, hrule⟩,
        Bool.and_eq_true_iff.2 ⟨decide_eq_true rfl, rfl⟩⟩

end CallSequence

/-! ### Resolutions -/

/-- The calls of rules in a resolution, each with the path of its node in the tree as it was. -/
structure RuleCallSequence (registry : Registry) (tree : Json) (calls : List (Path × RuleCall)) :
    Prop where
  /-- Rules are called in the order in which the nodes come in the tree. -/
  preorder : (calls.map fun call => (call.1, call.2.node)).Sublist (places tree)
  once : (calls.map Prod.fst).Nodup
  rule_eq : ∀ call ∈ calls, registry.ruleFor? call.2.node = some call.2.rule
  not_program : ∀ call ∈ calls, ¬ call.2.node.isKind "Program" = true
  /-- There is a call just for each node that a rule is registered for, below programs and nodes
  into which their own rules let the walk descend. -/
  called_iff : ∀ path v, (∃ call ∈ calls, call.1 = path ∧ call.2.node = v) ↔
    NodeAt tree path v ∧ (registry.ruleFor? v).isSome = true ∧
      ∀ p u, NodeAt tree p u → p <+: path → p ≠ path →
        u.isKind "Program" = true ∨ RuleCall.Descends calls p
  /-- Nothing is called inside a node of a type without a rule. -/
  not_inside : ∀ path v, NodeAt tree path v → registry.ruleFor? v = none →
    ¬ v.isKind "Program" = true → ∀ call ∈ calls, ¬ path <+: call.1

theorem CallSequence.ruleCallSequence {tree : Json} {calls : List (Path × Call ShapeError)}
    (h : CallSequence tree calls) (hd : tree.DistinctKeys)
    (hfits : ∀ call ∈ calls, registry.Fits call.2) :
    RuleCallSequence registry tree (RuleCall.among registry calls) := by
  have hcalled : ∀ path v, (∃ call ∈ RuleCall.among registry calls, call.1 = path ∧
      call.2.node = v) ↔ NodeAt tree path v ∧ (registry.ruleFor? v).isSome = true ∧
        ∀ p u, NodeAt tree p u → p <+: path → p ≠ path →
          u.isKind "Program" = true ∨ RuleCall.Descends (RuleCall.among registry calls) p :=
    fun path v => by
      have hmem : (∃ call ∈ RuleCall.among registry calls, call.1 = path ∧ call.2.node = v) ↔
          (path, v) ∈ (RuleCall.among registry calls).map fun call => (call.1, call.2.node) := by
        simp only [List.mem_map, Prod.mk.injEq]
      rw [hmem, RuleCall.nodes_among, List.mem_filter, h.entered_iff_descends hd hfits, and_assoc,
        and_comm (b := _ = true)]
  have hrule : ∀ call ∈ RuleCall.among registry calls,
      registry.ruleFor? call.2.node = some call.2.rule :=
    fun call hcall => (RuleCall.mem_among.1 hcall).2
  refine ⟨?_, ?_, hrule, fun call hcall =>
    Registry.not_isKind_program_of_ruleFor? (hrule call hcall), hcalled, ?_⟩
  · rw [RuleCall.nodes_among]
    exact List.filter_sublist.trans h.preorder
  · have hpaths : (((RuleCall.among registry calls).map fun call =>
        (call.1, call.2.node)).map Prod.fst).Nodup := by
      rw [RuleCall.nodes_among]
      exact (List.filter_sublist.map Prod.fst).nodup h.once
    rwa [List.map_map] at hpaths
  · intro path v hat hnone hprogram call hcall hpre
    -- a call at the path itself would be one of a rule for the node
    have hself : ∀ call ∈ RuleCall.among registry calls, call.1 ≠ path := by
      rintro call hcall rfl
      obtain ⟨hat', hsome, -⟩ := (hcalled _ _).1 ⟨call, hcall, rfl, rfl⟩
      rw [hat'.eq hd hat, hnone] at hsome
      cases hsome
    obtain ⟨-, -, hall⟩ := (hcalled _ _).1 ⟨call, hcall, rfl, rfl⟩
    obtain hp | ⟨call', hcall', heq, -⟩ := hall path v hat hpre (hself call hcall).symm
    · exact hprogram hp
    · exact hself call' hcall' heq

/-- **Which rules a resolution calls, and what they remove.** -/
theorem Resolver.ruleCallSequence_resolve (r : Resolver) (h : registry.LooksOn) {tree : Json}
    (hnode : tree.isNode = true) (hd : tree.DistinctKeys) :
    ∃ calls, calls.map Prod.snd = r.ruleCalls registry tree ∧
      RuleCallSequence registry tree calls ∧
      (r.resolve registry tree).tree = tree.remove (RuleCall.removed calls) ∧
      (r.resolve registry tree).failure = none := by
  set start : RuleState := ⟨Context.fresh r.config (r.nextTracer.startPhase "Resolve Components"
    "Rewriting missing component assertions"), registry⟩ with hstart
  obtain ⟨calls, hcalls, hsegment, hleft, hfailure⟩ :=
    exists_calls_walk h.visitor hnode hd (s := start) rfl
  have hbegin : registry.NotesCalls (start, []) (start, []) :=
    ⟨rfl, rfl, rfl, List.forall_mem_nil _⟩
  obtain ⟨-, -, hlog, hfits⟩ := (registry.simulates_recorded.walk tree hbegin).state
  rw [Visitor.calls] at hcalls
  have hsequence := hsegment.callSequence hd
  have hfits' : ∀ call ∈ calls, registry.Fits call.2 := fun call hcall =>
    hfits _ (hcalls ▸ List.mem_map_of_mem hcall)
  have hremoved : tree.remove (RuleCall.removed (RuleCall.among registry calls)) =
      tree.remove (Call.removed calls) :=
    remove_congr fun path hne => hsequence.removed_among hfits' hne
  refine ⟨RuleCall.among registry calls, ?_, hsequence.ruleCallSequence hd hfits', ?_, ?_⟩
  · rw [RuleCall.map_snd_among, hcalls]
    exact hlog.symm
  · rw [resolve, if_pos hnode, hremoved, ← hleft]
    simp only [applyRules, ← hstart, hfailure]
  · rw [resolve, if_pos hnode]
    simp only [applyRules, ← hstart, hfailure]

/-! ### A sample -/

namespace Sample

/-- Counts its calls, and answers by what has been counted before. -/
def counting (name : String) (answer : Int → Option Action) : Rule where
  name
  apply v ctx :=
    { node := v, context := ctx.count "seen" 1, outcome := .ok (answer (ctx.stats.get "seen")) }
  growth := 0

theorem looksOn_counting (name : String) (answer : Int → Option Action) :
    (counting name answer).LooksOn where
  node_eq _ _ _ := rfl
  answers _ _ _ := ⟨_, rfl⟩

/-- Blocks are descended into, and every other empty statement is removed.  The types of the
built-in rules are taken, and identifiers have no rule. -/
def countingRules : List (String × Rule) :=
  [("Block", counting "block" fun _ => none),
    ("EmptyStatement", counting "empty" fun n => if n % 2 = 0 then some .remove else some .skip),
    ("ImportDeclaration", counting "import" fun _ => some .skip),
    ("FunctionDeclaration", counting "function" fun _ => some .descend)]

/-- A registry with these rules, in which a rule that fails is registered for programs. -/
def countingRegistry : Registry :=
  { Registry.initial with rules := ("Program", faulty) :: countingRules }

theorem looksOn_countingRegistry : countingRegistry.LooksOn := by
  intro v rule hrule
  obtain ⟨kind, -, hkind, hfind⟩ := Registry.ruleFor?_eq_some_iff.1 hrule
  have hmem : (kind, rule) ∈ countingRegistry.rules := Registry.mem_of_lookup hfind
  have hall : ∀ entry ∈ countingRules, entry.2.LooksOn := by
    simp only [countingRules, List.forall_mem_cons, looksOn_counting, List.not_mem_nil,
      false_implies, implies_true, and_self]
  rcases List.mem_cons.1 hmem with heq | hmem
  · exact absurd (congrArg Prod.fst heq) hkind
  · exact hall _ hmem

/-- A littered block, and another program behind it. -/
def nested : Json := program [littered, program [empty, function "main" []]]

/-- What the rules leave of it. -/
def nestedLeft : Json :=
  program
    [named "Block" "outer"
      [("body", .arr [empty, .null, named "Block" "a" [("body", .arr [.int 1])], empty, .int 7,
          named "Identifier" "b" [("first", empty)]]),
        ("test", empty), ("range", .arr [.int 0, .int 9])],
      program [function "main" []]]

end Sample

open Sample in
theorem ruleCallSequence_resolve_nested :
    countingRegistry.LooksOn ∧ nested.isNode = true ∧ nested.DistinctKeys ∧
      ∃ calls, calls.map Prod.snd = (Resolver.new .default none).ruleCalls countingRegistry nested ∧
        RuleCallSequence countingRegistry nested calls ∧
        nested.remove (RuleCall.removed calls) = nestedLeft := by
  have hnode : nested.isNode = true := by decide
  have hd : nested.DistinctKeys := by decide
  obtain ⟨calls, hcalls, hsequence, hleft, -⟩ := Resolver.ruleCallSequence_resolve
    (Resolver.new .default none) looksOn_countingRegistry hnode hd
  exact ⟨looksOn_countingRegistry, hnode, hd, calls, hcalls, hsequence, hleft.symm.trans rfl⟩

end ComponentLookup
