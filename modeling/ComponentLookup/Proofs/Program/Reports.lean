import ComponentLookup.Proofs.Node.Render
import ComponentLookup.Proofs.Program.Edits
import ComponentLookup.Proofs.Rule.Kept

/-!
# What a resolution reports

The rules edit, count and trace in separate steps.  Here these are brought together: what is traced
and counted is read off the list of edits (`Program.edits`), an edit at a time (`Edit.mutation`).

* `Context.Reports` : between two contexts just the given edits were traced and counted.  One node
  that a rule has handled reports its own edits (`reports_handled`), and several nodes report theirs
  one after another (`reports_handledAll`).
* `Resolver.mutations_eq` : the trace of a resolution tells **the edits of the program, in order**,
  with the texts of each statement in the program before and after; the counters are the numbers of
  these events by the type of the node.

An edit that takes a node out is told from the others by its empty text afterwards.  That is right
because no statement that stays has an empty text (`Node.render_ne_empty`).
-/

namespace ComponentLookup

open Json

/-! ### The report of an edit -/

/-- The index of a step into a list. -/
def Json.Step.index? : Step → Option Int
  | .item index => some index
  | .field _ => none

/-- What is traced of an edit. -/
def Json.Edit.mutation (e : Edit) : Mutation :=
  match e.after with
  | none =>
    { nodeType := e.before.kind?.getD ""
      before := "function " ++ (Node.functionName? e.before).getD "" ++ "(...)"
      after := "", index := none }
  | some (_, after) =>
    { nodeType := e.before.kind?.getD ""
      before := Node.render e.before
      after := Node.render after
      index := if e.before.isKind "ImportDeclaration" then none
        else e.place.getLast?.bind Step.index? }

/-- The counters with the types of the nodes whose edits they count. -/
def Stats.counted : List (String × String) :=
  [("imports_augmented", "ImportDeclaration"), ("declarations_relaxed", "VariableDeclaration"),
    ("checks_rewritten", "IfStatement"), ("helpers_removed", "FunctionDeclaration")]

/-- Between two contexts just the given edits were counted, and traced by a tracer that records. -/
structure Context.Reports (edits : List Mutation) (before after : Context) : Prop where
  recording : after.tracer.recording = before.tracer.recording
  mutations : before.tracer.recording = true →
    after.tracer.mutations = before.tracer.mutations ++ edits
  counters : ∀ entry ∈ Stats.counted,
    after.stats.get entry.1 = before.stats.get entry.1 + edits.countP (·.nodeType == entry.2)

variable {ctx ctx' ctx'' : Context} {es es' : List Mutation} {m : Mutation} {key kind : String}
  {config : Config} {v w s s' : Json} {e : Edit} {p q : Path}

theorem Stats.get_initial : ∀ entry ∈ counted, initial.get entry.1 = 0 := by decide

namespace Context.Reports

theorem refl (ctx : Context) : Reports [] ctx ctx :=
  ⟨rfl, fun _ => (List.append_nil _).symm, fun _ _ => (Int.add_zero _).symm⟩

theorem trans (h : Reports es ctx ctx') (h' : Reports es' ctx' ctx'') :
    Reports (es ++ es') ctx ctx'' where
  recording := h'.recording.trans h.recording
  mutations hr := by
    rw [h'.mutations (h.recording.trans hr), h.mutations hr, List.append_assoc]
  counters entry hentry := by
    rw [h'.counters entry hentry, h.counters entry hentry, List.countP_append, Int.natCast_add,
      Int.add_assoc]

/-- A number that was counted apart can be counted at the end. -/
theorem trans_count {n n' : Nat} (h : Reports es ctx (ctx'.count key n))
    (h' : Reports es' ctx' (ctx''.count key n')) :
    Reports (es ++ es') ctx (ctx''.count key (n + n' : Nat)) where
  recording := h'.recording.trans h.recording
  mutations hr := by
    have hmid : ctx'.tracer.mutations = ctx.tracer.mutations ++ es := h.mutations hr
    have hend : ctx''.tracer.mutations = ctx'.tracer.mutations ++ es' :=
      h'.mutations (h.recording.trans hr)
    exact hend.trans (by rw [hmid, List.append_assoc])
  counters entry hentry := by
    have hmid := h.counters entry hentry
    have hend := h'.counters entry hentry
    simp only [Context.count, Stats.get_count, List.countP_append] at hmid hend ⊢
    split_ifs at hmid hend ⊢ <;> push_cast <;> omega

end Context.Reports

/-! ### Single steps -/

theorem Tracer.mutations_logMutation {t : Tracer} (h : t.recording = true) (m : Mutation) :
    (t.logMutation m).mutations = t.mutations ++ [m] := by
  simp [logMutation, record, h, mutations]

namespace Context

theorem reports_count_zero (ctx : Context) (key : String) :
    ctx.Reports [] (ctx.count key 0) :=
  ⟨rfl, fun _ => (List.append_nil _).symm, fun entry _ => by
    simp [count, Stats.get_count]⟩

theorem reports_report (ctx : Context) (level : Log.Level) (message : String) :
    ctx.Reports [] (ctx.report level message) :=
  ⟨rfl, fun _ => (List.append_nil _).symm, fun _ _ => (Int.add_zero _).symm⟩

/-- What is traced otherwise is no edit. -/
theorem reports_traced (ctx : Context) {f : Tracer → Tracer} (hf : Tracer.Operation f)
    (h : (f ctx.tracer).mutations = ctx.tracer.mutations) : ctx.Reports [] (ctx.traced f) :=
  ⟨hf.recording _, fun _ => h.trans (List.append_nil _).symm, fun _ _ => (Int.add_zero _).symm⟩

/-- An edit is counted under the type of its node. -/
theorem reports_mutation (ctx : Context) (kind : String) (hm : m.nodeType = kind)
    (h : (key, kind) ∈ Stats.counted) :
    ctx.Reports [m] ((ctx.count key 1).traced (·.logMutation m)) where
  recording := (Tracer.Operation.logMutation m).recording _
  mutations hr := Tracer.mutations_logMutation hr m
  counters entry hentry := by
    -- the types belong to the counters one by one
    have hpair : ∀ a ∈ Stats.counted, ∀ b ∈ Stats.counted, a.1 = b.1 ↔ b.2 = a.2 := by decide
    have hkey := hpair entry hentry _ h
    simp only [traced, count, Stats.get_count, List.countP_singleton, hm, hkey, beq_iff_eq]
    split_ifs <;> rfl

end Context

/-! ### Reports of edits -/

namespace Json.Edit

variable {index : Nat}

theorem mutation_removal (hk : v.isKind kind = true) {name : String}
    (hname : Node.functionName? v = some name) :
    mutation ⟨p, v, none⟩ =
      { nodeType := kind, before := "function " ++ name ++ "(...)", after := ""
        index := none } := by
  rw [mutation, isKind_iff.1 hk, hname]
  rfl

theorem mutation_import (hk : v.isKind "ImportDeclaration" = true) :
    mutation ⟨p, v, some (q, w)⟩ =
      { nodeType := "ImportDeclaration", before := Node.render v, after := Node.render w
        index := none } := by
  simp only [mutation, isKind_iff.1 hk, if_pos hk, Option.getD_some]

theorem mutation_statement (hk : s.isKind kind = true) (hne : kind ≠ "ImportDeclaration")
    (hp : p.getLast? = some (.item index)) :
    mutation ⟨p, s, some (q, s')⟩ =
      { nodeType := kind, before := Node.render s, after := Node.render s'
        index := some index } := by
  simp [mutation, isKind_iff.1 hk, isKind_eq_false_of_isKind hk hne, hp, Step.index?]

/-- Only the end of the place of a statement is told. -/
theorem mutation_under
    (h : e.after = none ∨ e.before.isKind "ImportDeclaration" = true ∨ e.place ≠ []) :
    (e.under p q).mutation = e.mutation := by
  obtain ⟨place, before, after⟩ := e
  cases after with
  | none => rfl
  | some after =>
    by_cases hk : before.isKind "ImportDeclaration" = true
    · simp [mutation, under, hk]
    · have hplace : place ≠ [] := by simpa [hk] using h
      simp [mutation, under, List.getLast?_append_of_ne_nil _ hplace]

end Json.Edit

namespace ReferenceScan

variable {index n : Nat}

theorem isKind_of_changes (h : changes s = true) :
    s.isKind "VariableDeclaration" = true ∨ s.isKind "IfStatement" = true := by
  unfold changes at h
  split_ifs at h with hv
  · exact .inl hv
  · obtain ⟨check, hc, -⟩ := (Option.any_eq_true _ _).1 h
    exact .inr (Node.missingReferenceCheck?_eq_some_iff.1 hc).1

/-- What the scan does at one statement; the assertions are counted at the end. -/
theorem reports_statement? (h : statement? index s ctx = some (s', ctx', n)) :
    ctx.Reports ((if changes s then [⟨[.item index], s, some ([.item index], s')⟩] else
      ([] : List Edit)).map Edit.mutation) (ctx'.count "checks_rewritten" n) := by
  rcases statement?_cases h with
    ⟨hc, -, rfl, hctx⟩ | ⟨hc, hk, rfl, rfl⟩ | ⟨hc, hk, rfl, rfl⟩
  · rw [if_neg hc]
    rcases hctx with rfl | rfl
    · exact Context.reports_count_zero _ _
    · exact (ctx.reports_traced (.logInspection _ _ _) (by simp)).trans
        (Context.reports_count_zero _ _)
  · rw [if_pos hc, List.map_singleton, Edit.mutation_statement hk (by decide) rfl]
    exact (ctx.reports_mutation "VariableDeclaration" rfl (by decide)).trans
      (Context.reports_count_zero _ _)
  · rw [if_pos hc, List.map_singleton, Edit.mutation_statement hk (by decide) rfl]
    exact ctx.reports_mutation "IfStatement" rfl (by decide)

theorem reports_scan (index : Nat) (body : List Json) (ctx : Context) :
    ctx.Reports ((edits ctx.config.resolverLocalName index body).map Edit.mutation)
      ((scan index body ctx).2.1.count "checks_rewritten" (scan index body ctx).2.2) := by
  induction body generalizing index ctx with
  | nil => exact ctx.reports_count_zero _
  | cons s rest ih =>
    cases hs : statement? index s ctx with
    | none =>
      simp only [scan, hs, edits_of_accepted?_eq_none index (statement?_eq_none_iff.1 hs)]
      exact ctx.reports_count_zero _
    | some result =>
      obtain ⟨s', ctx', n⟩ := result
      obtain ⟨ha, hconfig⟩ := accepted?_of_statement? hs
      have hrest := ih (index + 1) ctx'
      rw [hconfig] at hrest
      simp only [scan, hs, edits_of_accepted? index ha, List.map_append]
      exact (reports_statement? hs).trans_count hrest

theorem reports_statements (body : List Json) (ctx : Context) :
    ctx.Reports ((edits ctx.config.resolverLocalName 0 body).map Edit.mutation)
      (statements body ctx).2.1 :=
  reports_scan 0 body ctx

end ReferenceScan

namespace Program

variable (config) in
/-- What is traced of the edits in a node that is handed to the rules. -/
def mutationsOf (v : Json) : List Mutation := (statementEdits config v).map Edit.mutation

theorem reports_applyToEntry (hv : v.isNode = true) (name : String) (ctx : Context) :
    ctx.Reports ((entryEdits ctx.config v).map Edit.mutation)
      (RenderFunction.applyToEntry v name ctx).context := by
  unfold entryEdits
  cases hb : renderBody? v ctx.config.renderBodyName with
  | none =>
    simp only [applyToEntry_of_none hv name hb]
    exact (ctx.reports_report _ _).trans (Context.reports_traced _ (.logWarning _) (by simp))
  | some result =>
    obtain ⟨body, inner⟩ := result
    have hstart : ctx.Reports [] (scanContext ctx) :=
      ctx.reports_traced (.startPhase _ _) (by simp)
    have hend := (ReferenceScan.statements inner (scanContext ctx)).2.1.reports_traced .endPhase
      (by simp)
    have hmutation : ∀ path, ((ReferenceScan.edits ctx.config.resolverLocalName 0 inner).map
        (Edit.under path path)).map Edit.mutation =
          (ReferenceScan.edits ctx.config.resolverLocalName 0 inner).map Edit.mutation := by
      intro path
      rw [List.map_map]
      refine List.map_congr_left fun e he => Edit.mutation_under (.inr (.inr ?_))
      obtain ⟨i, s, s', -, -, rfl⟩ := ReferenceScan.of_mem_edits he
      exact List.cons_ne_nil _ _
    have hall := (hstart.trans (ReferenceScan.reports_statements inner _)).trans hend
    rw [List.nil_append, List.append_nil] at hall
    simp only [applyToEntry_of_some hv name hb, hmutation]
    exact hall

theorem statementEdits_of_isKind_importDeclaration
    (hk : v.isKind "ImportDeclaration" = true) :
    statementEdits config v = if gainsResolver config v then
      [⟨[], v, some ([], v.update "specifiers" (withResolver config))⟩] else [] := by
  have hf : v.isKind "FunctionDeclaration" = false := isKind_eq_false_of_isKind hk (by decide)
  simp [statementEdits, Node.isFunctionNamed, hf]

theorem statementEdits_of_other (hi : ¬ v.isKind "ImportDeclaration" = true)
    (hf : ¬ v.isKind "FunctionDeclaration" = true) : statementEdits config v = [] := by
  have hgains : ¬ gainsResolver config v = true := fun h => hi (gainsResolver_iff.1 h).1
  simp [statementEdits, Node.isFunctionNamed, hf, hgains]

theorem reports_runtimeImport (hv : v.isNode = true) (hk : v.isKind "ImportDeclaration" = true)
    (ctx : Context) :
    ctx.Reports (mutationsOf ctx.config v) (RuntimeImport.apply v ctx).context := by
  rw [mutationsOf, statementEdits_of_isKind_importDeclaration hk]
  obtain ⟨heq, hs⟩ | ⟨source, items, -, hs, hb, heq⟩ | ⟨items, hn, hs, hb, heq⟩ :=
    runtimeImport_cases hv ctx
  · have hgains : ¬ gainsResolver ctx.config v = true := by
      intro hgains
      obtain ⟨-, hn, items, hget, -⟩ := gainsResolver_iff.1 hgains
      have hnone := hs hn
      rw [hget] at hnone
      cases hnone
    rw [if_neg hgains, heq]
    exact .refl ctx
  · have hgains : ¬ gainsResolver ctx.config v = true := by
      intro hgains
      obtain ⟨-, -, items', hget, hb'⟩ := gainsResolver_iff.1 hgains
      rw [hs] at hget
      cases hget
      exact hb' hb
    simp only [if_neg hgains, heq]
    exact ctx.reports_traced (.logInspection _ _ _) (by simp)
  · rw [if_pos (gainsResolver_iff.2 ⟨hk, hn, items, hs, hb⟩), heq, List.map_singleton,
      Edit.mutation_import hk, addSpecifier_eq_update hs hb]
    exact ctx.reports_mutation "ImportDeclaration" rfl (by decide)

theorem reports_renderFunction (hf : v.isKind "FunctionDeclaration" = true) (ctx : Context) :
    ctx.Reports (mutationsOf ctx.config v) (RenderFunction.apply v ctx).context := by
  have hgains : ¬ gainsResolver ctx.config v = true := fun h =>
    not_isKind_of_isKind hf (by decide) (gainsResolver_iff.1 h).1
  unfold RenderFunction.apply mutationsOf statementEdits
  simp only [isFunctionNamed_iff, hf, true_and, if_neg hgains]
  cases hname : Node.functionName? v with
  | none => exact .refl ctx
  | some name =>
    simp only [Option.some.injEq]
    split_ifs with hentry hhelper
    · exact reports_applyToEntry (isNode_of_isKind hf) name ctx
    · rw [List.map_singleton, Edit.mutation_removal hf hname]
      exact ctx.reports_mutation "FunctionDeclaration" rfl (by decide)
    · exact .refl ctx

end Program

/-- **A node that is handled reports its edits.** -/
theorem reports_handled (hv : v.isNode = true) (ctx : Context) :
    ctx.Reports (Program.mutationsOf ctx.config v) (handled v ctx).context := by
  unfold handled
  split_ifs with hi hf
  · exact Program.reports_runtimeImport hv hi ctx
  · exact Program.reports_renderFunction hf ctx
  · rw [Program.mutationsOf, Program.statementEdits_of_other hi hf]
    exact .refl ctx

/-- **Nodes report their edits** one after another. -/
theorem reports_handledAll {nodes : List Json} (h : ∀ v ∈ nodes, v.isNode = true) (ctx : Context) :
    ctx.Reports (nodes.flatMap (Program.mutationsOf ctx.config)) (handledAll nodes ctx) := by
  induction nodes generalizing ctx with
  | nil => exact .refl ctx
  | cons v nodes ih =>
    have hv := h v List.mem_cons_self
    have hrest := ih (fun w hw => h w (List.mem_cons_of_mem v hw)) (handled v ctx).context
    rw [(handled_eq hv ctx).2.2] at hrest
    exact (reports_handled hv ctx).trans hrest

/-! ### The report of a resolution -/

namespace Program

variable {fields : Fields} {items : List Json}

theorem IsEdit.mutation_under (h : IsEdit config v e) (p q : Path) :
    (e.under p q).mutation = e.mutation := by
  refine Edit.mutation_under ?_
  cases h with
  | removal place u helper => exact .inl rfl
  | augment p' q' u gains => exact .inr (.inl (gainsResolver_iff.1 gains).1)
  | rewrite path q' index s s' body accepted changes =>
    exact .inr (.inr (List.append_ne_nil_of_right_ne_nil _ (List.cons_ne_nil _ _)))

theorem mutation_map_under {es : List Edit} (h : ∀ e ∈ es, IsEdit config v e) (p q : Path) :
    (es.map (Edit.under p q)).map Edit.mutation = es.map Edit.mutation := by
  rw [List.map_map]
  exact List.map_congr_left fun e he => (h e he).mutation_under p q

theorem mutation_editsInItems
    (h : ∀ v ∈ items,
      (edits config v).map Edit.mutation = (subjects v).flatMap (mutationsOf config))
    (hd : ∀ v ∈ items, v.DistinctKeys) (i j : Nat) :
    (editsInItems config i j items).map Edit.mutation =
      (items.flatMap subjects).flatMap (mutationsOf config) := by
  induction items generalizing i j with
  | nil => rfl
  | cons v rest ih =>
    rw [editsInItems, List.map_append,
      mutation_map_under (isEdit_edits config (hd v List.mem_cons_self)), h v List.mem_cons_self,
      ih (fun w hw => h w (List.mem_cons_of_mem v hw)) fun w hw => hd w (List.mem_cons_of_mem v hw),
      List.flatMap_cons, List.flatMap_append]

theorem mutation_editsInValue
    (h : ∀ u ∈ standing v,
      (edits config u).map Edit.mutation = (subjects u).flatMap (mutationsOf config))
    (hd : ∀ u ∈ standing v, u.DistinctKeys) :
    (editsInValue config v).map Edit.mutation =
      ((standing v).flatMap subjects).flatMap (mutationsOf config) := by
  cases v with
  | arr items => exact mutation_editsInItems h hd 0 0
  | _ => exact (h _ List.mem_cons_self).trans (by rw [standing, List.flatMap_singleton]; simp)

/-- **The edits of a program tell what is traced** when its subjects are handed to the rules. -/
theorem mutation_edits (hd : v.DistinctKeys) :
    (edits config v).map Edit.mutation = (subjects v).flatMap (mutationsOf config) := by
  induction v using induct with
  | other v hp =>
    rw [edits_of_not_program hp]
    by_cases hv : v.isNode = true
    · rw [subjects_of_not_program hv hp, List.flatMap_singleton, mutationsOf]
    · have hnot (kind : String) : ¬ v.isKind kind = true := fun hk => hv (isNode_of_isKind hk)
      rw [subjects_of_not_isNode hv, statementEdits_of_other (hnot _) (hnot _)]
      rfl
  | program fields hp ih =>
    rw [edits_program hp, subjects_program hp]
    have hdistinct : ∀ field ∈ fields, ∀ u ∈ standing field.2, u.DistinctKeys :=
      fun field hf u hu => distinctKeys_standing hd hf hu
    clear hp hd
    induction fields with
    | nil => rfl
    | cons field rest ihrest =>
      obtain ⟨key, v⟩ := field
      have hv := hdistinct (key, v) List.mem_cons_self
      rw [editsInFields_cons, subjectsInFields_cons, List.map_append, List.flatMap_append,
        ihrest (fun field hf => ih field (List.mem_cons_of_mem _ hf))
          fun field hf => hdistinct field (List.mem_cons_of_mem _ hf)]
      congr 1
      split_ifs
      · rfl
      · rw [mutation_map_under (isEdit_editsInValue fun u hu => isEdit_edits config (hv u hu))]
        exact mutation_editsInValue
          (fun u hu => ih (key, v) List.mem_cons_self u hu (hv u hu)) hv

end Program

/-- An edit is of one of the types that are counted. -/
theorem Program.IsEdit.counted (h : Program.IsEdit config v e) :
    ∃ entry ∈ Stats.counted, e.mutation.nodeType = entry.2 := by
  cases h with
  | removal place u helper =>
    have hk := (Program.isFunctionNamed_iff.1 helper).1
    exact ⟨("helpers_removed", _), by decide, congrArg (·.getD "") (isKind_iff.1 hk)⟩
  | augment p q u gains =>
    have hk := (Program.gainsResolver_iff.1 gains).1
    exact ⟨("imports_augmented", _), by decide, congrArg (·.getD "") (isKind_iff.1 hk)⟩
  | rewrite path q index s s' body accepted changes =>
    rcases ReferenceScan.isKind_of_changes changes with hk | hk
    · exact ⟨("declarations_relaxed", _), by decide, congrArg (·.getD "") (isKind_iff.1 hk)⟩
    · exact ⟨("checks_rewritten", _), by decide, congrArg (·.getD "") (isKind_iff.1 hk)⟩

/-- Only a node that is taken out has the empty text afterwards. -/
theorem Program.IsEdit.after_eq_empty_iff (h : Program.IsEdit config v e) :
    e.mutation.after = "" ↔ e.after = none := by
  cases h with
  | removal place u helper => exact iff_of_true rfl rfl
  | augment p q u gains =>
    have hk := (Program.gainsResolver_iff.1 gains).1
    have hk' : (u.update "specifiers" (Program.withResolver config)).isKind
        "ImportDeclaration" = true := by rw [isKind_update (by decide), hk]
    exact iff_of_false (Node.render_ne_empty hk' (by decide)) (Option.some_ne_none _)
  | rewrite path q index s s' body accepted changes =>
    have hkind := ReferenceScan.kind?_accepted? accepted
    refine iff_of_false ?_ (Option.some_ne_none _)
    rcases ReferenceScan.isKind_of_changes changes with hk | hk
    · exact Node.render_ne_empty (isKind_iff.2 (hkind.trans (isKind_iff.1 hk))) (by decide)
    · exact Node.render_ne_empty (isKind_iff.2 (hkind.trans (isKind_iff.1 hk))) (by decide)

theorem Mutation.removed_iff (m : Mutation) :
    "Removed ".toList <+: m.describe.toList ↔ m.after = "" := by
  unfold describe
  split_ifs with h
  · simp [h]
  · simp [h]

namespace Resolver

variable {r : Resolver} {registry : Registry} {tree : Json}

/-- From the fresh context of a resolution to its end, the edits of the program are traced and
counted. -/
theorem reports_resolve (hd : tree.DistinctKeys) :
    (Context.fresh r.config r.nextTracer).Reports
      ((Program.edits r.config tree).map Edit.mutation)
      (closing (handledAll (Program.subjects tree) r.opening)) := by
  have hopening : (Context.fresh r.config r.nextTracer).Reports [] r.opening :=
    (Context.fresh r.config r.nextTracer).reports_traced (.startPhase _ _) (by simp)
  have hnodes : ∀ v ∈ Program.subjects tree, v.isNode = true :=
    fun v hv => (Program.of_mem_subjects hv).1
  have hrules := reports_handledAll hnodes r.opening
  have hclosing (ctx : Context) : ctx.Reports [] (closing ctx) :=
    (ctx.reports_traced .endPhase (by simp)).trans (Context.reports_report _ _ _)
  have hall := (hopening.trans hrules).trans (hclosing _)
  rw [List.append_nil, List.nil_append] at hall
  rw [Program.mutation_edits hd]
  exact hall

/-- **The trace and the counters report the edits of the program.** -/
theorem mutations_eq (h : registry.OnlyBuiltins) (hshared : r.shared = none)
    (htrace : r.config.trace = true) (hp : tree.isKind "Program" = true)
    (hd : tree.DistinctKeys) :
    ∃ ctx, (r.resolve registry tree).resolver.last = some ctx ∧
      Edit.Lead (Program.edits r.config tree) tree (r.resolve registry tree).tree ∧
      (∀ e ∈ Program.edits r.config tree, Program.IsEdit r.config tree e ∧
        ("Removed ".toList <+: e.mutation.describe.toList ↔ e.after = none)) ∧
      ctx.tracer.mutations = (Program.edits r.config tree).map Edit.mutation ∧
      (∀ entry ∈ Stats.counted,
        ctx.stats.get entry.1 = ctx.tracer.mutations.countP (·.nodeType == entry.2)) ∧
      ((r.resolve registry tree).tree = tree ↔
        ∀ entry ∈ Stats.counted, ctx.stats.get entry.1 = 0) := by
  obtain ⟨_, -, hresolve⟩ := resolve_eq r h hp hd
  have hreports := reports_resolve (r := r) hd
  have hlead := Program.lead_edits r.config hp hd
  have hisEdit := Program.isEdit_edits r.config hd
  have htracer : r.nextTracer = .empty true := by rw [nextTracer, hshared, htrace]
  -- the trace begins empty, and the counters at zero
  have hmutations : (closing (handledAll (Program.subjects tree) r.opening)).tracer.mutations =
      (Program.edits r.config tree).map Edit.mutation := by
    have hfresh := hreports.mutations (by rw [Context.fresh, htracer]; rfl)
    rwa [Context.fresh, htracer] at hfresh
  have hcounters : ∀ entry ∈ Stats.counted,
      (closing (handledAll (Program.subjects tree) r.opening)).stats.get entry.1 =
        ((Program.edits r.config tree).map Edit.mutation).countP (·.nodeType == entry.2) := by
    intro entry hentry
    have hcount := hreports.counters entry hentry
    rwa [Context.fresh, Stats.get_initial entry hentry, Int.zero_add] at hcount
  rw [hresolve]
  refine ⟨_, rfl, hlead, fun e he => ⟨hisEdit e he, ?_⟩, hmutations, ?_, ?_, ?_⟩
  · rw [Mutation.removed_iff, (hisEdit e he).after_eq_empty_iff]
  · rw [hmutations]
    exact hcounters
  · intro htree
    have htree : Program.resolved r.config tree = tree := htree
    have hself : ∀ v ∈ Program.subjects tree, Program.resolvedStatement? r.config v = some v :=
      fun v hv => Program.resolvedStatement?_of_mem_subjects hp (htree.symm ▸ hv)
    rw [(quiet_opening hself).1]
    exact Stats.get_initial
  · intro hzero
    have hnone : Program.edits r.config tree = [] := by
      refine List.eq_nil_iff_forall_not_mem.2 fun e he => ?_
      obtain ⟨entry, hentry, htype⟩ := (hisEdit e he).counted
      have hcount := (hcounters entry hentry).symm.trans (hzero entry hentry)
      have hnot := List.countP_eq_zero.1 (Int.natCast_eq_zero.1 hcount) _ (List.mem_map_of_mem he)
      exact hnot (beq_iff_eq.2 htype)
    have hreplay := hlead.replay
    rw [hnone] at hreplay
    exact (Option.some.inj hreplay).symm

end Resolver

open Sample in
theorem mutations_adjacentHelpers :
    let r := Resolver.new .default none
    r.shared = none ∧ r.config.trace = true ∧ adjacentHelpers.isKind "Program" = true ∧
      adjacentHelpers.DistinctKeys ∧
      ∃ ctx, (r.resolve .initial adjacentHelpers).resolver.last = some ctx ∧
        (ctx.tracer.mutations.map fun m => (m.nodeType, m.index)) =
          [("ImportDeclaration", none), ("FunctionDeclaration", none),
            ("FunctionDeclaration", none), ("VariableDeclaration", some 0),
            ("IfStatement", some 1), ("FunctionDeclaration", none)] ∧
        ctx.stats.get "helpers_removed" = 3 ∧
        (r.resolve .initial adjacentHelpers).tree ≠ adjacentHelpers := by
  intro r
  have hp : adjacentHelpers.isKind "Program" = true := by decide
  have hd : adjacentHelpers.DistinctKeys := by decide
  obtain ⟨ctx, hlast, -, -, hmutations, hcounters, hsame⟩ :=
    Resolver.mutations_eq (r := r) Registry.onlyBuiltins_initial rfl rfl hp hd
  have hremoved : ctx.stats.get "helpers_removed" = 3 := by
    rw [hcounters ("helpers_removed", "FunctionDeclaration") (by decide), hmutations]
    decide
  refine ⟨rfl, rfl, hp, hd, ctx, hlast, ?_, hremoved, fun htree => ?_⟩
  · rw [hmutations]
    decide
  · have hzero := hsame.1 htree ("helpers_removed", "FunctionDeclaration") (by decide)
    rw [hremoved] at hzero
    cases hzero

end ComponentLookup
