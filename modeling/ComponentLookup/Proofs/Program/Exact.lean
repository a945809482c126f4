import ComponentLookup.Proofs.Json.Distinct
import ComponentLookup.Proofs.Rule.Dispatch

/-!
# The resolution is exact

* `Resolver.resolve_eq_resolved` : with the built-in rules and no others, a resolution of a program
  makes of it the resolved program (`Program.resolved`) and **does not fail**.
* `Resolver.resolve_node` : what a resolution counts, traces and logs is what the rules do to the
  subjects of its root (`Program.subjects`), one after another.

Both come from the tour.  A visit of a value gives its resolution, and changes the context by its
subjects (`Program.toured`, with `Program.slots_eq` for fields and `Program.items_eq` for lists).
The parent handed on by the visit of the slots consists of fields that are done and of fields that
are yet to come, and each new value is stored where the old one stands, because no object repeats a
field name.
-/

namespace ComponentLookup

open Json

/-- The context after the rules have handled some nodes one after another. -/
def handledAll (nodes : List Json) (ctx : Context) : Context :=
  nodes.foldl (fun ctx v => (handled v ctx).context) ctx

@[simp] theorem handledAll_nil (ctx : Context) : handledAll [] ctx = ctx := rfl

@[simp] theorem handledAll_cons (v : Json) (nodes : List Json) (ctx : Context) :
    handledAll (v :: nodes) ctx = handledAll nodes (handled v ctx).context := rfl

theorem handledAll_append (nodes nodes' : List Json) (ctx : Context) :
    handledAll (nodes ++ nodes') ctx = handledAll nodes' (handledAll nodes ctx) :=
  List.foldl_append

theorem config_handledAll {nodes : List Json} (h : ∀ v ∈ nodes, v.isNode = true) (ctx : Context) :
    (handledAll nodes ctx).config = ctx.config := by
  induction nodes generalizing ctx with
  | nil => rfl
  | cons v nodes ih =>
    rw [handledAll_cons, ih (fun w hw => h w (List.mem_cons_of_mem v hw)),
      (handled_eq (h v List.mem_cons_self) ctx).2.2]

namespace Program

variable {v : Json}

theorem config_subjects (v : Json) (ctx : Context) :
    (handledAll (subjects v) ctx).config = ctx.config :=
  config_handledAll (fun _ hw => (of_mem_subjects hw).1) ctx

theorem config_flatMap_subjects (items : List Json) (ctx : Context) :
    (handledAll (items.flatMap subjects) ctx).config = ctx.config :=
  config_handledAll (fun w hw => by
    obtain ⟨v, -, hw⟩ := List.mem_flatMap.1 hw
    exact (of_mem_subjects hw).1) ctx

/-! ### The tour of a program -/

/-- A visit that ends with the given node and context, and with a registry of built-in rules. -/
def Visits (visited : Tour.Visited RuleState ShapeError) (node? : Option Json) (ctx : Context) :
    Prop :=
  ∃ registry : Registry, registry.OnlyBuiltins ∧ visited = ⟨node?, ⟨ctx, registry⟩, none⟩

/-- A walk that ends with the given node and context, and with a registry of built-in rules. -/
def Walks (walked : Walked RuleState ShapeError) (node : Json) (ctx : Context) : Prop :=
  ∃ registry : Registry, registry.OnlyBuiltins ∧ walked = ⟨node, ⟨ctx, registry⟩, none⟩

variable (registry₀ : Registry)

/-- Every visit of the value, if it is a node, makes of it its resolution, and handles its
subjects. -/
def Toured (v : Json) : Prop :=
  ∀ (before : Site) (after : Json → Site) (s : RuleState),
    v.isNode = true → v.DistinctKeys → s.registry.OnlyBuiltins →
      Visits (Tour.node (ruleVisitor registry₀) before after v s) (resolved? s.context.config v)
        (handledAll (subjects v) s.context)

variable {registry₀}

/-- A node that is no program is handled, and what is below it is not visited. -/
theorem toured_of_not_program (hp : ¬ v.isKind "Program" = true) : Toured registry₀ v := by
  intro before after s hv hd hs
  obtain ⟨registry, hregistry, hdispatch⟩ := dispatch_eq hv hp hs
  obtain ⟨hout, hnode, -⟩ := handled_eq hv s.context
  obtain ⟨fields, rfl⟩ := exists_fields_of_isNode hv
  refine ⟨registry, hregistry, ?_⟩
  rw [resolved?_of_not_program hp, subjects_of_not_program hv hp]
  simp only [Tour.node, enter_ruleVisitor, hdispatch, hout, Except.map, Option.getD_some]
  cases hr : resolvedStatement? s.context.config (.obj fields) with
  | none => simp
  | some w => simp [hnode, hr]

/-- The visit of a list keeps what is resolved to something, behind the items that are done. -/
theorem items_eq {rest : List Json} (ih : ∀ v ∈ rest, Toured registry₀ v)
    (hd : ∀ v ∈ rest, v.DistinctKeys) (host : Json) (key : String) (done : List Json)
    {s : RuleState} (hs : s.registry.OnlyBuiltins) :
    Walks (Tour.items (ruleVisitor registry₀) host key done rest s)
      (host.set key (.arr (done ++ rest.filterMap (resolved? s.context.config))))
      (handledAll (rest.flatMap subjects) s.context) := by
  induction rest generalizing done s with
  | nil => exact ⟨s.registry, hs, by simp [Tour.items]⟩
  | cons v rest ihrest =>
    have hnext := ihrest (fun v hv => ih v (List.mem_cons_of_mem _ hv))
      (fun v hv => hd v (List.mem_cons_of_mem _ hv))
    by_cases hv : v.isNode = true
    · obtain ⟨registry, hregistry, hnode⟩ := ih v List.mem_cons_self
        (.item (host.set key (.arr (done ++ v :: rest))) key done.length)
        (fun w => .item (host.set key (.arr (done ++ w :: rest))) key done.length) s hv
        (hd v List.mem_cons_self) hs
      -- what the item has become is done, and the rest is visited with the context after it
      obtain ⟨registry', hregistry', hrest⟩ := hnext
        (done ++ (resolved? s.context.config v).toList)
        (s := ⟨handledAll (subjects v) s.context, registry⟩) hregistry
      refine ⟨registry', hregistry', ?_⟩
      simp only [config_subjects, List.append_assoc] at hrest
      simp only [Tour.items, if_pos hv, hnode, hrest, ← resolvedItems_eq_filterMap, resolvedItems,
        List.flatMap_cons, handledAll_append]
    · obtain ⟨registry, hregistry, hrest⟩ := hnext (done ++ [v]) hs
      refine ⟨registry, hregistry, ?_⟩
      simp only [Tour.items, if_neg hv, hrest,
        List.filterMap_cons_some (resolved?_of_not_isNode hv), List.flatMap_cons,
        subjects_of_not_isNode hv, List.append_assoc, List.singleton_append, List.nil_append]

/-- The visit of a field goes on with the next one, the new value stored and its subjects
handled. -/
theorem slot_eq {key : String} (ih : ∀ u ∈ standing v, Toured registry₀ u)
    (hd : v.DistinctKeys) {done rest : Fields}
    (hn : ((done ++ (key, v) :: rest).map Prod.fst).Nodup) {s : RuleState}
    (hs : s.registry.OnlyBuiltins) :
    ∃ registry : Registry, registry.OnlyBuiltins ∧
      Tour.slots (ruleVisitor registry₀) (.obj (done ++ (key, v) :: rest)) ((key, v) :: rest) s =
        Tour.slots (ruleVisitor registry₀)
          (.obj (done ++
            (key, if key = "type" then v else resolvedValue s.context.config v) :: rest)) rest
          ⟨handledAll (if key = "type" then [] else (standing v).flatMap subjects) s.context,
            registry⟩ := by
  by_cases hkey : key = "type"
  · refine ⟨s.registry, hs, ?_⟩
    rw [Tour.slots_of_not_isSlot (by simp [Tour.isSlot, hkey]), if_pos hkey, if_pos hkey,
      handledAll_nil]
  cases hslot : Slot.of? v with
  | none =>
    refine ⟨s.registry, hs, ?_⟩
    rw [Tour.slots_of_not_isSlot (by simp [Tour.isSlot, hslot]), if_neg hkey, if_neg hkey,
      resolvedValue_of_slot_none hslot, subjects_of_slot_none hslot, handledAll_nil]
  | some slot =>
    have hisSlot : Tour.isSlot (key, v) = true := by simp [Tour.isSlot, hslot, hkey]
    cases v with
    | arr items =>
      have ih : ∀ u ∈ items, Toured registry₀ u := ih
      obtain ⟨registry, hregistry, hitems⟩ := items_eq ih (fun _ => hd.mem)
        (.obj (done ++ (key, .arr items) :: rest)) key [] hs
      refine ⟨registry, hregistry, ?_⟩
      simp only [Tour.slots, if_pos (Tour.isSlot_arr.1 hisSlot), hitems, List.nil_append,
        set_append hn, if_neg hkey, resolvedValue, resolvedItems_eq_filterMap, standing]
    | obj fields =>
      obtain ⟨registry, hregistry, hnode⟩ := ih (.obj fields) List.mem_cons_self
        (.field (.obj (done ++ (key, .obj fields) :: rest)) key)
        (fun w => .field ((Json.obj (done ++ (key, .obj fields) :: rest)).set key w) key)
        s (Tour.isSlot_obj.1 hisSlot).2 hd hs
      refine ⟨registry, hregistry, ?_⟩
      simp only [Tour.slots_obj, if_pos (Tour.isSlot_obj.1 hisSlot), hnode]
      simp only [set_append hn, if_neg hkey, resolvedValue, standing, List.flatMap_singleton]
    | _ => simp [Slot.of?, isNode, kind?, get?] at hslot

/-- The parent consists of fields that are done and of fields that are yet to come. -/
theorem slots_eq {fields : Fields}
    (ih : ∀ field ∈ fields, ∀ v ∈ standing field.2, Toured registry₀ v)
    (hd : ∀ field ∈ fields, field.2.DistinctKeys) (done : Fields)
    (hn : ((done ++ fields).map Prod.fst).Nodup) {s : RuleState} (hs : s.registry.OnlyBuiltins) :
    Walks (Tour.slots (ruleVisitor registry₀) (.obj (done ++ fields)) fields s)
      (.obj (done ++ resolvedFields s.context.config fields))
      (handledAll (subjectsInFields fields) s.context) := by
  induction fields generalizing done s with
  | nil => exact ⟨s.registry, hs, by simp [Tour.slots, resolvedFields, subjectsInFields]⟩
  | cons field rest ihrest =>
    obtain ⟨key, v⟩ := field
    obtain ⟨registry, hregistry, hslot⟩ :=
      slot_eq (ih _ List.mem_cons_self) (hd _ List.mem_cons_self) hn hs
    obtain ⟨registry', hregistry', hrest⟩ := ihrest
      (fun field hf => ih field (List.mem_cons_of_mem _ hf))
      (fun field hf => hd field (List.mem_cons_of_mem _ hf))
      (done ++ [(key, if key = "type" then v else resolvedValue s.context.config v)])
      (by simpa using hn)
      (s := ⟨handledAll (if key = "type" then [] else (standing v).flatMap subjects) s.context,
        registry⟩) hregistry
    refine ⟨registry', hregistry', ?_⟩
    have hconfig : (handledAll (if key = "type" then [] else (standing v).flatMap subjects)
        s.context).config = s.context.config := by
      split_ifs
      · rfl
      · exact config_flatMap_subjects _ _
    rw [hslot, resolvedFields_cons, subjectsInFields_cons, handledAll_append]
    simpa only [hconfig, List.append_assoc, List.singleton_append] using hrest

/-- **Every visit of a node** makes of it its resolution. -/
theorem toured (v : Json) : Toured registry₀ v := by
  induction v using Program.induct with
  | other v hp => exact toured_of_not_program hp
  | program fields hp ih =>
    intro before after s hv hd hs
    rw [resolved?_program hp, subjects_program hp]
    obtain ⟨registry, hregistry, hslots⟩ :=
      slots_eq ih (distinctKeysFields_iff.1 hd.2) [] hd.1 hs
    refine ⟨registry, hregistry, ?_⟩
    simp only [List.nil_append] at hslots
    simp only [Tour.node, enter_ruleVisitor, dispatch_program hp, hslots, leave_ruleVisitor]

variable (registry₀) in
/-- **The walk of a node** ends with its resolution.  A root that is to be taken out stays. -/
theorem walk_eq {s : RuleState} (hv : v.isNode = true) (hd : v.DistinctKeys)
    (hs : s.registry.OnlyBuiltins) :
    Walks (walk (ruleVisitor registry₀) v s) (resolvedRoot s.context.config v)
      (handledAll (subjects v) s.context) := by
  by_cases hroot : ((ruleVisitor registry₀).enter .root v s).outcome = .ok .remove
  · have hp : ¬ v.isKind "Program" = true := by
      intro hp
      rw [enter_ruleVisitor, dispatch_program hp] at hroot
      cases hroot
    obtain ⟨registry, hregistry, hdispatch⟩ := dispatch_eq hv hp hs
    refine ⟨registry, hregistry, ?_⟩
    rw [Tour.walk_of_remove hroot, enter_ruleVisitor, leave_ruleVisitor, hdispatch, resolvedRoot,
      resolved?_of_not_program hp, subjects_of_not_program hv hp, (handled_eq hv s.context).2.1]
    rfl
  · obtain ⟨registry, hregistry, hnode⟩ := toured v .root (fun _ => .root) s hv hd hs
    refine ⟨registry, hregistry, ?_⟩
    rw [Tour.walk_eq (isLocal_ruleVisitor registry₀) hv hs hroot, hnode]
    rfl

end Program

/-! ### Resolutions -/

namespace Resolver

variable (r : Resolver)

/-- The context in which the walk of the next program begins. -/
def opening : Context :=
  .fresh r.config
    (r.nextTracer.startPhase "Resolve Components" "Rewriting missing component assertions")

/-- The context when the walk has ended. -/
def closing (ctx : Context) : Context :=
  let ctx := ctx.traced (·.endPhase)
  ctx.report .debug ("Rewrite finished: " ++ ctx.stats.toJson.quoted)

variable {registry : Registry} {tree : Json}

/-- **A resolution of a node** hands its subjects to the rules, and does not fail. -/
theorem resolve_node (h : registry.OnlyBuiltins) (hv : tree.isNode = true)
    (hd : tree.DistinctKeys) :
    ∃ registry' : Registry, registry'.OnlyBuiltins ∧
      let ctx := closing (handledAll (Program.subjects tree) r.opening)
      r.resolve registry tree =
        { tree := Program.resolvedRoot r.config tree
          resolver := { r with shared := r.shared.map fun _ => ctx.tracer, last := some ctx }
          registry := registry', log := ctx.log, failure := none } := by
  obtain ⟨registry', hregistry', hwalk⟩ :=
    Program.walk_eq registry (s := ⟨r.opening, registry⟩) hv hd h
  refine ⟨registry', hregistry', ?_⟩
  have happlied : applyRules r.config r.nextTracer registry tree =
      ⟨Program.resolvedRoot r.config tree,
        closing (handledAll (Program.subjects tree) r.opening), registry', none⟩ := by
    simp only [opening] at hwalk
    simp only [applyRules, hwalk]
    rfl
  simp only [resolve, if_pos hv, happlied]

theorem resolve_eq (h : registry.OnlyBuiltins) (hp : tree.isKind "Program" = true)
    (hd : tree.DistinctKeys) :
    ∃ registry' : Registry, registry'.OnlyBuiltins ∧
      let ctx := closing (handledAll (Program.subjects tree) r.opening)
      r.resolve registry tree =
        { tree := Program.resolved r.config tree
          resolver := { r with shared := r.shared.map fun _ => ctx.tracer, last := some ctx }
          registry := registry', log := ctx.log, failure := none } := by
  rw [← Program.resolvedRoot_program hp]
  exact resolve_node r h (isNode_of_isKind hp) hd

theorem tree_resolve (h : registry.OnlyBuiltins) (hp : tree.isKind "Program" = true)
    (hd : tree.DistinctKeys) : (r.resolve registry tree).tree = Program.resolved r.config tree := by
  obtain ⟨_, -, heq⟩ := resolve_eq r h hp hd
  rw [heq]

/-- **A resolution of a program** does not fail and gives the resolved program. -/
theorem resolve_eq_resolved (h : registry.OnlyBuiltins) (hp : tree.isKind "Program" = true)
    (hd : tree.DistinctKeys) :
    (r.resolve registry tree).failure = none ∧
      (r.resolve registry tree).tree = Program.resolved r.config tree := by
  obtain ⟨_, -, heq⟩ := resolve_eq r h hp hd
  refine ⟨?_, r.tree_resolve h hp hd⟩
  rw [heq]

end Resolver

/-! ### Sample programs -/

namespace Sample

/-! The nodes of compiled programs that the samples are built of. -/

/-- A program with the given statements. -/
def program (body : List Json) : Json :=
  .obj [("type", .str "Program"), ("body", .arr body), ("sourceType", .str "module")]

/-- Statements between braces. -/
def block (statements : List Json) : Json :=
  .obj [("type", .str "BlockStatement"), ("body", .arr statements)]

/-- A function declaration with the given statements in its body. -/
def function (name : String) (statements : List Json) : Json :=
  .obj [("type", .str "FunctionDeclaration"), ("id", Node.identifier (.str name)),
    ("body", block statements)]

/-- A literal with the given value. -/
def literal (value : Json) : Json := .obj [("type", .str "Literal"), ("value", value)]

/-- An import of the given specifiers from a module. -/
def importFrom (source : String) (specifiers : List Json) : Json :=
  .obj [("type", .str "ImportDeclaration"), ("specifiers", .arr specifiers),
    ("source", literal (.str source))]

/-- A declaration of the given kind, of no variables. -/
def declaration (kind : String) : Json :=
  .obj [("type", .str "VariableDeclaration"), ("kind", .str kind), ("declarations", .arr [])]

/-- A call of a function by its name. -/
def call (callee : String) (arguments : List Json) : Json :=
  .obj [("type", .str "CallExpression"), ("callee", Node.identifier (.str callee)),
    ("arguments", .arr arguments)]

/-- The statement that an expression makes. -/
def statement (expression : Json) : Json :=
  .obj [("type", .str "ExpressionStatement"), ("expression", expression)]

/-- A statement that runs a branch unless its argument holds. -/
def ifNot (argument branch : Json) : Json :=
  .obj [("type", .str "IfStatement"),
    ("test", .obj [("type", .str "UnaryExpression"), ("operator", .str "!"),
      ("argument", argument)]),
    ("consequent", branch)]

/-- The helper that an unresolved reference ends up in. -/
def helper : Json := function "_missingMdxReference" []

/-- The assertion of a reference. -/
def assertion (name : String) : Json :=
  ifNot (Node.identifier (.str name))
    (statement (call "_missingMdxReference" [literal (.str name), literal (.bool true)]))

/-- The assignment that an assertion is turned into. -/
def lookup (name : String) : Json :=
  ifNot (Node.identifier (.str name)) (statement (Node.assignment (Node.identifier (.str name))
    (call "_resolveComponent" [literal (.str name)]) (.str "=")))

/-- The entry function with the statements of its render body. -/
def entry (statements : List Json) : Json :=
  function "MDXContent" [function "_createMdxContent" statements]

/-- Two helpers side by side, an assertion behind other code, and a helper that stands alone in a
field of a program in the program. -/
def adjacentHelpers : Json :=
  program [importFrom "vue/jsx-runtime" [], helper, helper,
    entry [declaration "const", assertion "Foo", statement (call "render" []), assertion "Bar"],
    .obj [("type", .str "Program"), ("body", helper)]]

end Sample

open Sample in
theorem resolve_adjacentHelpers :
    adjacentHelpers.isKind "Program" = true ∧ adjacentHelpers.DistinctKeys ∧
      ((Resolver.new .default none).resolve .initial adjacentHelpers).failure = none ∧
      ((Resolver.new .default none).resolve .initial adjacentHelpers).tree =
        program [importFrom "vue/jsx-runtime"
            [Node.importSpecifier (.str "resolveComponent") (.str "_resolveComponent")],
          entry [declaration "let", lookup "Foo", statement (call "render" []), assertion "Bar"],
          .obj [("type", .str "Program"), ("body", .null)]] := by
  have hp : adjacentHelpers.isKind "Program" = true := by decide
  have hd : adjacentHelpers.DistinctKeys := by decide
  obtain ⟨hfailure, htree⟩ :=
    (Resolver.new .default none).resolve_eq_resolved Registry.onlyBuiltins_initial hp hd
  exact ⟨hp, hd, hfailure, htree.trans rfl⟩

end ComponentLookup
