import ComponentLookup.Proofs.Rule.Kept
import ComponentLookup.Proofs.Rule.StrictRules
import ComponentLookup.Proofs.Walk.Following

/-!
# Strict dispatch

The visitor of a resolution with strict reads: the type of a node is read as one that has to be
there, the fields of a program are listed, and every other node goes to the strict built-in rule for
its type.

* `Strict.walk_follows` : under the built-in rules **the strict walk of a tree does what the running
  one does**, or stops at an integer that is too long to be written, which it does not in a tree
  that can be read.
-/

namespace ComponentLookup

open Json StepFault

namespace Strict

/-- The type tag of a value that has to be a node. -/
def kind (v : Json) : Except StepFault String := do
  match ← ofRead (v.field? "type") with
  | some (.str kind) => return kind
  | some _ => .error .noText
  | none => .error (.absent "type")

/-- What the built-in rules make of a node that is no program. -/
def handled (v : Json) (ctx : Context) : Except StepFault RuleReply :=
  if v.isKind "ImportDeclaration" then RuntimeImport.Strict.apply v ctx
  else if v.isKind "FunctionDeclaration" then RenderFunction.Strict.apply v ctx
  else .ok ⟨v, ctx, .ok (some .skip)⟩

/-- Hands a node to the built-in rule for its type. -/
def dispatch (v : Json) (s : RuleState) : Except StepFault (Reply RuleState ShapeError) := do
  let kind ← kind v
  if kind = "Program" then
    let _ ← ofRead (childSlots v)
    return { node := v, edits := [], state := s, outcome := .ok .descend }
  else
    let reply ← handled v s.context
    return { node := reply.node, edits := []
             state := ⟨reply.context, (s.registry.find kind).2⟩
             outcome := reply.outcome.map (·.getD .descend) }

/-- The visitor that applies the built-in rules; where a step fails, the walk stops. -/
def visitor (registry : Registry) : Visitor RuleState StepFault where
  enter := fun _ v s =>
    match dispatch v s with
    | .ok reply => ⟨reply.node, reply.edits, reply.state, ofRead reply.outcome⟩
    | .error fault => ⟨v, [], s, .error fault⟩
  leave := fun _ _ s => s
  growth := registry.growth

/-! ### Replies -/

variable {v : Json} {s : RuleState}

theorem kind_eq_ok_iff {k : String} : kind v = .ok k ↔ v.kind? = some k := by
  cases v with
  | obj fields =>
    have hread : (Json.obj fields).field? "type" = .ok (Fields.get? "type" fields) := rfl
    have hkind : (Json.obj fields).kind? = (Fields.get? "type" fields).bind text? := rfl
    rw [kind, hread, hkind]
    rcases Fields.get? "type" fields with _ | w
    · exact iff_of_false (by rintro ⟨⟩) (by rintro ⟨⟩)
    · cases w with
      | str t =>
        rw [Option.bind_some, text?, Option.some_inj]
        exact ⟨Except.ok.inj, congrArg Except.ok⟩
      | _ => exact iff_of_false (by rintro ⟨⟩) (by rintro ⟨⟩)
  | _ => exact iff_of_false (by rintro ⟨⟩) (by rintro ⟨⟩)

/-- The rules are asked for nodes only. -/
theorem unlessLong_handled (hv : v.isNode = true) (ctx : Context) :
    UnlessLong v.Readable (handled v ctx) (.ok (ComponentLookup.handled v ctx)) := by
  unfold handled ComponentLookup.handled
  split_ifs
  · exact RuntimeImport.Strict.unlessLong_apply hv ctx
  · exact RenderFunction.Strict.unlessLong_apply hv ctx
  · exact .ok _

/-- **A node gets the reply** that it gets without strict reads, unless it holds a long integer. -/
theorem unlessLong_dispatch (hv : v.isNode = true) (hs : s.registry.OnlyBuiltins) :
    UnlessLong v.Readable (dispatch v s) (.ok (ComponentLookup.dispatch v s)) := by
  obtain ⟨k, hk⟩ := Option.isSome_iff_exists.1 hv
  unfold dispatch
  rw [kind_eq_ok_iff.2 hk]
  refine .bind_ok (.ok k) ?_
  split_ifs with hp
  · -- a program is an object, so that its fields can be listed
    obtain ⟨fields, rfl⟩ := exists_fields_of_isNode hv
    rw [dispatch_program (isKind_iff.2 (hp ▸ hk))]
    exact .ok _
  · rw [dispatch_of_kind hk hp hs]
    exact (unlessLong_handled hv s.context).bind_ok (.ok _)

/-- Every strict reply is the running one. -/
theorem dispatch_of_ok (hs : s.registry.OnlyBuiltins) {reply : Reply RuleState ShapeError}
    (h : dispatch v s = .ok reply) : reply = ComponentLookup.dispatch v s := by
  have hv : v.isNode = true := by
    cases hk : kind v with
    | ok k => exact Option.isSome_iff_exists.2 ⟨k, kind_eq_ok_iff.1 hk⟩
    | error fault =>
      rw [dispatch, hk] at h
      cases h
  exact (unlessLong_dispatch hv hs).eq_of_ok h

/-! ### Walks -/

/-- The strict visitor, too, leaves the parent alone. -/
theorem isLocal_visitor (registry : Registry) :
    (visitor registry).IsLocal (·.registry.OnlyBuiltins) := by
  have hreply : ∀ v (s : RuleState), s.registry.OnlyBuiltins →
      ((visitor registry).enter .root v s).edits = [] ∧
        (((visitor registry).enter .root v s).outcome = .ok .descend →
          ((visitor registry).enter .root v s).node = v) ∧
        ((visitor registry).enter .root v s).state.registry.OnlyBuiltins := by
    intro v s hs
    cases hd : dispatch v s with
    | error fault =>
      simp only [visitor, hd]
      exact ⟨trivial, by simp, hs⟩
    | ok reply =>
      obtain ⟨hedits, hregistry, hnode⟩ := dispatch_cases v hs
      rw [← dispatch_of_ok hs hd] at hedits hregistry hnode
      simp only [visitor, hd]
      refine ⟨hedits, fun hout => hnode ?_, hregistry⟩
      cases hreply : reply.outcome with
      | ok action =>
        rw [hreply] at hout
        exact congrArg Except.ok (Except.ok.inj hout)
      | error e =>
        rw [hreply] at hout
        cases hout
  exact {
    edits_eq := fun _ v s hs => (hreply v s hs).1
    node_eq := fun _ v s hs => (hreply v s hs).2.1
    enter := fun _ v s hs => (hreply v s hs).2.2
    leave := fun _ _ _ hs => hs }

theorem follows (registry : Registry) :
    (visitor registry).Follows (ruleVisitor registry) (·.registry.OnlyBuiltins) .longInteger
      Readable where
  enter site v s hs hv := by
    obtain ⟨action, hout⟩ := answers_ruleVisitor registry site v s hs
    have hreply := unlessLong_dispatch hv hs
    rw [enter_ruleVisitor] at hout ⊢
    generalize ComponentLookup.dispatch v s = reply at hout hreply ⊢
    obtain ⟨node, edits, state, outcome⟩ := reply
    cases hout
    rcases hreply.eq_or_long with heq | ⟨heq, hnot⟩
    · simp only [visitor, heq]
      exact .same node edits state action
    · simp only [visitor, heq]
      exact .stop _ _ _ _ hnot
  leave_eq := rfl

/-- **The strict walk does what the running one does**, unless it stops at a long integer. -/
theorem walk_follows (registry : Registry) (hv : v.isNode = true)
    (hs : s.registry.OnlyBuiltins) :
    (walk (visitor registry) v s).Follows .longInteger v.Readable
      (walk (ruleVisitor registry) v s) :=
  (follows registry).walk hereditary_readable (isLocal_visitor registry)
    (isLocal_ruleVisitor registry) hv hs

end Strict

end ComponentLookup
