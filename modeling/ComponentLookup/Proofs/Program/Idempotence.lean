import ComponentLookup.Proofs.Program.Hereditary
import ComponentLookup.Proofs.Program.Exact

/-!
# A second resolution

A resolved program has nothing left to resolve: `Resolver.resolve_resolved`.

Each edit takes away its own occasion.  A statement of a render body that was accepted by the scan
is accepted again and stays as it is (`ReferenceScan.rewritten_rewritten`), an import with the
specifier added binds the resolver (`withResolver_withResolver`), and what was taken out is no
subject any more (`subjects_resolved`).  So the subjects of the second resolution are what has
become of those of the first, and each of them is left as it is (`quiet_handledAll`).
-/

namespace ComponentLookup

open Json

namespace Program

variable {config : Config} {v w : Json} {fields : Fields} {items : List Json}

/-! ### A statement resolved twice -/

theorem isFunctionNamed_update_body (f : Json → Json) (name : String) :
    Node.isFunctionNamed (v.update "body" f) name = Node.isFunctionNamed v name := by
  have hkey : "body" ≠ "type" := by decide
  rw [Node.isFunctionNamed, Node.functionName?, isKind_update hkey, isNode_update hkey,
    get?_update_of_ne (by decide)]
  rfl

theorem isFunctionNamed_onRenderBody (f : List Json → List Json) (bodyName name : String) :
    Node.isFunctionNamed (onRenderBody bodyName f v) name = Node.isFunctionNamed v name :=
  isFunctionNamed_update_body _ name

theorem find?_mapFirst {test : Json → Bool} {f : Json → Json} (h : ∀ v, test (f v) = test v)
    (items : List Json) : (mapFirst test f items).find? test = (items.find? test).map f := by
  induction items with
  | nil => rfl
  | cons w rest ih =>
    simp only [mapFirst]
    split_ifs with ht
    · rw [List.find?_cons_of_pos ht, List.find?_cons_of_pos ((h w).trans ht), Option.map_some]
    · rw [List.find?_cons_of_neg ht, List.find?_cons_of_neg ht, ih]

/-- The render body is found again where it was. -/
theorem renderBody?_onRenderBody {f : List Json → List Json} {name : String} :
    renderBody? (onRenderBody name f v) name =
      (renderBody? v name).map fun found => (onBody f found.1, f found.2) := by
  refine Option.ext fun found => ?_
  obtain ⟨body, inner⟩ := found
  simp only [renderBody?_eq_some_iff, onRenderBody, body?_onBody, Option.map_eq_some_iff,
    Prod.exists, Prod.mk.injEq]
  constructor
  · rintro ⟨_, ⟨statements, hs, rfl⟩, hb, hi⟩
    rw [find?_mapFirst (fun v => isFunctionNamed_update_body _ name)] at hb
    obtain ⟨body₀, hb₀, rfl⟩ := Option.map_eq_some_iff.1 hb
    obtain ⟨inner₀, hi₀, rfl⟩ := Option.map_eq_some_iff.1 (body?_onBody.symm.trans hi)
    exact ⟨body₀, inner₀, ⟨statements, hs, hb₀, hi₀⟩, rfl, rfl⟩
  · rintro ⟨body₀, inner₀, ⟨statements, hs, hb₀, hi₀⟩, rfl, rfl⟩
    refine ⟨_, ⟨statements, hs, rfl⟩, ?_, ?_⟩
    · rw [find?_mapFirst (fun v => isFunctionNamed_update_body _ name), hb₀, Option.map_some]
    · rw [body?_onBody, hi₀, Option.map_some]

theorem scanned_scanned (statements : List Json) :
    scanned config (scanned config statements) = scanned config statements := by
  simp only [scanned_eq, ReferenceScan.rewritten_rewritten]

theorem onRenderBody_scanned_twice (name : String) :
    onRenderBody name (scanned config) (onRenderBody name (scanned config) v) =
      onRenderBody name (scanned config) v := by
  refine onRenderBody_eq_self_iff.2 fun body inner h => ?_
  rw [renderBody?_onRenderBody, Option.map_eq_some_iff] at h
  obtain ⟨⟨body₀, inner₀⟩, -, heq⟩ := h
  obtain ⟨-, rfl⟩ := Prod.mk.inj heq
  exact scanned_scanned inner₀

/-- The specifier that is added binds the resolver. -/
theorem bindsLocal_importSpecifier (imported : Json) (localName : String) :
    Node.bindsLocal localName (Node.importSpecifier imported (.str localName)) = true :=
  beq_self_eq_true (some localName)

theorem withResolver_withResolver (specifiers : Json) :
    withResolver config (withResolver config specifiers) = withResolver config specifiers := by
  refine withResolver_eq_self fun items h => ?_
  cases specifiers with
  | arr specifiers =>
    rw [withResolver] at h
    split_ifs at h with hb
    · cases h; exact hb
    · cases h
      rw [List.any_append]
      simp [bindsLocal_importSpecifier]
  | _ => cases h

theorem namesRuntime_update_specifiers (f : Json → Json) :
    namesRuntime config (v.update "specifiers" f) = namesRuntime config v := by
  simp only [namesRuntime, get?_update_of_ne (show "source" ≠ "specifiers" by decide)]

/-- **A resolved statement stays as it is.** -/
theorem resolvedStatement?_resolvedStatement? (h : resolvedStatement? config v = some w) :
    resolvedStatement? config w = some w := by
  unfold resolvedStatement? at h
  split_ifs at h with hentry hhelper himport
  · rw [← Option.some.inj h, resolvedStatement?, isFunctionNamed_onRenderBody, if_pos hentry,
      onRenderBody_scanned_twice]
  · rw [Bool.and_eq_true] at himport
    rw [← Option.some.inj h, resolvedStatement?_of_isKind_importDeclaration
        (by rw [isKind_update (by decide), himport.1]), namesRuntime_update_specifiers,
      if_pos himport.2, update_update]
    exact congrArg some (update_congr fun specifiers _ => withResolver_withResolver specifiers)
  · rw [← Option.some.inj h, resolvedStatement?, if_neg hentry, if_neg hhelper, if_neg himport]

/-! ### A program resolved twice -/

theorem isKind_resolved? {kind : String} (h : resolved? config v = some w) :
    w.isKind kind = v.isKind kind := by
  rw [isKind, isKind, kind?_resolved? h]

theorem isNode_resolved? (h : resolved? config v = some w) : w.isNode = v.isNode := by
  rw [isNode, isNode, kind?_resolved? h]

/-- The resolution of an object is no list, so that its field is still a single one. -/
theorem exists_fields_of_resolved? (h : resolved? config (.obj fields) = some w) :
    ∃ fields', w = .obj fields' := by
  by_cases hp : (Json.obj fields).isKind "Program" = true
  · rw [resolved?_program hp] at h
    exact ⟨_, (Option.some.inj h).symm⟩
  · exact exists_fields_of_resolvedStatement? (resolved?_of_not_program hp ▸ h)

theorem resolvedItems_resolvedItems
    (h : ∀ v ∈ items, ∀ w, resolved? config v = some w → resolved? config w = some w) :
    resolvedItems config (resolvedItems config items) = resolvedItems config items := by
  simp only [resolvedItems_eq_filterMap, List.filterMap_filterMap]
  refine List.filterMap_congr fun v hv => ?_
  cases hr : resolved? config v with
  | none => rfl
  | some w => exact h v hv w hr

theorem resolvedValue_resolvedValue
    (h : ∀ u ∈ standing v, ∀ w, resolved? config u = some w → resolved? config w = some w) :
    resolvedValue config (resolvedValue config v) = resolvedValue config v := by
  cases v with
  | arr items =>
    rw [resolvedValue_arr, resolvedValue_arr]
    exact congrArg Json.arr (resolvedItems_resolvedItems h)
  | obj fields =>
    rw [resolvedValue_obj]
    cases hr : resolved? config (.obj fields) with
    | none => rfl
    | some w =>
      have hw := h _ List.mem_cons_self w hr
      obtain ⟨fields', rfl⟩ := exists_fields_of_resolved? hr
      rw [Option.getD_some, resolvedValue_obj, hw, Option.getD_some]
  | _ => rfl

theorem resolvedFields_resolvedFields
    (h : ∀ field ∈ fields, ∀ v ∈ standing field.2, ∀ w,
      resolved? config v = some w → resolved? config w = some w) :
    resolvedFields config (resolvedFields config fields) = resolvedFields config fields := by
  induction fields with
  | nil => rfl
  | cons field rest ih =>
    obtain ⟨key, v⟩ := field
    rw [resolvedFields_cons, resolvedFields_cons,
      ih fun field hf => h field (List.mem_cons_of_mem _ hf)]
    split_ifs
    · rfl
    · rw [resolvedValue_resolvedValue (h _ List.mem_cons_self)]

/-- **What stays is resolved.** -/
theorem resolved?_resolved? (h : resolved? config v = some w) : resolved? config w = some w := by
  induction v using induct generalizing w with
  | other v hp =>
    have hw : ¬ w.isKind "Program" = true := by rwa [isKind_resolved? h]
    rw [resolved?_of_not_program hp] at h
    rw [resolved?_of_not_program hw, resolvedStatement?_resolvedStatement? h]
  | program fields hp ih =>
    -- the program is reached again, since it keeps its type
    have hw : w.isKind "Program" = true := by rwa [isKind_resolved? h]
    rw [resolved?_program hp, Option.some.injEq] at h
    subst h
    rw [resolved?_program hw, resolvedFields_resolvedFields fun field hf v hv w => ih field hf v hv]

/-- **The resolution of a program is resolved.** -/
theorem resolved_resolved (hp : v.isKind "Program" = true) :
    resolved config (resolved config v) = resolved config v := by
  rw [resolved, resolved?_resolved? (resolved?_eq_resolved hp), Option.getD_some]

/-! ### The subjects of the second resolution -/

theorem flatMap_subjects_resolvedItems (items : List Json) :
    (resolvedItems config items).flatMap subjects =
      items.flatMap fun u => (resolved? config u).toList.flatMap subjects := by
  induction items with
  | nil => rfl
  | cons u rest ih => rw [resolvedItems, List.flatMap_append, List.flatMap_cons, ih]

theorem flatMap_subjects_resolvedValue (v : Json) :
    (standing (resolvedValue config v)).flatMap subjects =
      (standing v).flatMap fun u => (resolved? config u).toList.flatMap subjects := by
  cases v with
  | arr items => exact flatMap_subjects_resolvedItems items
  | obj fields =>
    rw [resolvedValue_obj, standing_obj, List.flatMap_singleton]
    cases hr : resolved? config (.obj fields) with
    | none => rfl
    | some w =>
      obtain ⟨fields', rfl⟩ := exists_fields_of_resolved? hr
      rw [Option.getD_some, standing_obj, Option.toList_some]
  | _ => rfl

theorem subjectsInFields_resolvedFields
    (h : ∀ field ∈ fields, ∀ v ∈ standing field.2,
      (resolved? config v).toList.flatMap subjects =
        (subjects v).filterMap (resolvedStatement? config)) :
    subjectsInFields (resolvedFields config fields) =
      (subjectsInFields fields).filterMap (resolvedStatement? config) := by
  induction fields with
  | nil => rfl
  | cons field rest ih =>
    obtain ⟨key, v⟩ := field
    rw [resolvedFields_cons, subjectsInFields_cons, subjectsInFields_cons, List.filterMap_append,
      ih fun field hf => h field (List.mem_cons_of_mem _ hf)]
    congr 1
    split_ifs
    · rfl
    · rw [flatMap_subjects_resolvedValue, List.filterMap_flatMap]
      exact List.flatMap_congr (h _ List.mem_cons_self)

variable (config) in
/-- The subjects of a resolution are what has become of the subjects before it. -/
theorem subjects_resolved? (v : Json) : (resolved? config v).toList.flatMap subjects =
    (subjects v).filterMap (resolvedStatement? config) := by
  induction v using induct with
  | other v hp =>
    by_cases hv : v.isNode = true
    · rw [subjects_of_not_program hv hp, resolved?_of_not_program hp]
      cases hr : resolvedStatement? config v with
      | none => simp [hr]
      | some w =>
        have hr' : resolved? config v = some w := (resolved?_of_not_program hp).trans hr
        have hw : subjects w = [w] := subjects_of_not_program (by rwa [isNode_resolved? hr'])
          (by rwa [isKind_resolved? hr'])
        simp [hr, hw]
    · rw [resolved?_of_not_isNode hv, Option.toList_some, List.flatMap_singleton,
        subjects_of_not_isNode hv, List.filterMap_nil]
  | program fields hp ih =>
    rw [subjects_program hp, ← subjectsInFields_resolvedFields ih, resolved?_program hp,
      Option.toList_some, List.flatMap_singleton, subjects_program]
    rw [isKind_resolved? (resolved?_program hp), hp]

theorem subjects_resolved (hp : v.isKind "Program" = true) :
    subjects (resolved config v) = (subjects v).filterMap (resolvedStatement? config) := by
  have h := subjects_resolved? config v
  rwa [resolved?_eq_resolved hp, Option.toList_some, List.flatMap_singleton] at h

theorem resolvedStatement?_of_mem_subjects (hp : v.isKind "Program" = true)
    (h : w ∈ subjects (resolved config v)) : resolvedStatement? config w = some w := by
  rw [subjects_resolved hp] at h
  obtain ⟨u, -, hu⟩ := List.mem_filterMap.1 h
  exact resolvedStatement?_resolvedStatement? hu

end Program

/-! ### The second resolution -/

/-- Nodes that are resolved move no counter and are no edits. -/
theorem quiet_handledAll {nodes : List Json} {ctx : Context}
    (h : ∀ v ∈ nodes, v.isNode = true ∧ Program.resolvedStatement? ctx.config v = some v) :
    ctx.Quiet (handledAll nodes ctx) := by
  induction nodes generalizing ctx with
  | nil => exact .refl ctx
  | cons v nodes ih =>
    obtain ⟨hv, hself⟩ := h v List.mem_cons_self
    have hconfig := (handled_eq hv ctx).2.2
    refine (quiet_handled hv ctx hself).trans (ih fun w hw => ?_)
    rw [hconfig]
    exact h w (List.mem_cons_of_mem v hw)

namespace Resolver

variable {r r' : Resolver} {registry registry' : Registry} {tree : Json}

/-- A program whose subjects are resolved leaves the counters at zero, and its trace has no edits
but those that the tracer brought along. -/
theorem quiet_opening
    (h : ∀ v ∈ Program.subjects tree, Program.resolvedStatement? r.config v = some v) :
    (closing (handledAll (Program.subjects tree) r.opening)).stats = Stats.initial ∧
      (closing (handledAll (Program.subjects tree) r.opening)).tracer.mutations =
        r.nextTracer.mutations := by
  have hquiet : r.opening.Quiet (handledAll (Program.subjects tree) r.opening) :=
    quiet_handledAll fun v hv => ⟨(Program.of_mem_subjects hv).1, h v hv⟩
  have hopening : r.opening.tracer.mutations = r.nextTracer.mutations :=
    Tracer.mutations_startPhase _ _ _
  have hkey : "checks_rewritten" ∈ Stats.initial.map Prod.fst := by decide
  exact ⟨hquiet.stats hkey,
    (Tracer.mutations_endPhase _).trans (hquiet.mutations.trans hopening)⟩

/-- **A second resolution changes nothing and reports nothing.** -/
theorem resolve_resolved (hconfig : r'.config = r.config) (h : registry.OnlyBuiltins)
    (h' : registry'.OnlyBuiltins) (hp : tree.isKind "Program" = true) (hd : tree.DistinctKeys) :
    (r'.resolve registry' (r.resolve registry tree).tree).failure = none ∧
      (r'.resolve registry' (r.resolve registry tree).tree).tree = (r.resolve registry tree).tree ∧
      ∃ ctx, (r'.resolve registry' (r.resolve registry tree).tree).resolver.last = some ctx ∧
        ctx.stats = Stats.initial ∧ ctx.tracer.mutations = r'.nextTracer.mutations ∧
        (r'.shared = none → ctx.tracer.mutations = []) := by
  obtain ⟨_, -, hfirst⟩ := resolve_eq r h hp hd
  have hp' : (Program.resolved r'.config tree).isKind "Program" = true := by
    rw [Program.isKind_resolved? (Program.resolved?_eq_resolved hp), hp]
  obtain ⟨_, -, hsecond⟩ := resolve_eq r' h' hp' (Program.distinctKeys_resolved hp hd)
  have hquiet := quiet_opening (r := r') fun v =>
    Program.resolvedStatement?_of_mem_subjects (v := tree) hp
  rw [hfirst, ← hconfig, hsecond, Program.resolved_resolved hp]
  refine ⟨rfl, rfl, _, rfl, hquiet.1, hquiet.2, fun hshared => ?_⟩
  rw [hquiet.2, nextTracer, hshared]
  rfl

end Resolver

open Sample in
theorem resolve_resolved_adjacentHelpers :
    let r := Resolver.new .default none
    let first := r.resolve .initial adjacentHelpers
    let second := r.resolve .initial first.tree
    adjacentHelpers.isKind "Program" = true ∧ adjacentHelpers.DistinctKeys ∧
      first.resolver.last.map (·.stats.get "helpers_removed") = some 3 ∧
      second.failure = none ∧ second.tree = first.tree ∧
      ∃ ctx, second.resolver.last = some ctx ∧ ctx.stats = Stats.initial ∧
        ctx.tracer.mutations = [] := by
  have hremoved : ((Resolver.new .default none).resolve .initial
      adjacentHelpers).resolver.last.map (·.stats.get "helpers_removed") = some 3 := by decide
  intro r first second
  have hp : adjacentHelpers.isKind "Program" = true := by decide
  have hd : adjacentHelpers.DistinctKeys := by decide
  obtain ⟨hfailure, htree, ctx, hlast, hstats, -, hmutations⟩ :=
    Resolver.resolve_resolved (r := r) (show r.config = r.config from rfl)
      Registry.onlyBuiltins_initial Registry.onlyBuiltins_initial hp hd
  exact ⟨hp, hd, hremoved, hfailure, htree, ctx, hlast, hstats, hmutations rfl⟩

end ComponentLookup
