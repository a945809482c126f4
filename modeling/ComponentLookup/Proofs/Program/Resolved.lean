import ComponentLookup.Proofs.Rule.Scan
import ComponentLookup.Rule.RuntimeImport

/-!
# The resolved program

What a resolution makes of a program, as a recursion on the tree that knows nothing of walks, rules
and registries.

A program is *reached* if it is the root, or stands directly in a reached program: in a field other
than the type tag, alone or in a list.  Of the nodes that stand directly in a reached program

* the entry function has the statements of its render body scanned (`onRenderBody`);
* any other function that has the name of the helper is taken out: a list loses it, and a field
  that held it alone holds null;
* an import of the runtime with a list of specifiers binds the resolver (`withResolver`);
* a program is reached in its turn.

Everything else stays as it is, and so does the order of all fields.
-/

namespace ComponentLookup

open Json

namespace Program

/-! ### Parts of a program changed in place -/

/-- Changes the statements of a block; any other value has none. -/
def onBlock (f : List Json → List Json) (block : Json) : Json :=
  match Node.blockStatements? block with
  | some statements => block.set "body" (.arr (f statements))
  | none => block

/-- Changes the statements of a function whose body is a block. -/
def onBody (f : List Json → List Json) (function : Json) : Json :=
  function.update "body" (onBlock f)

/-- Changes the first value that satisfies a test. -/
def mapFirst (test : Json → Bool) (f : Json → Json) : List Json → List Json
  | [] => []
  | v :: rest => if test v then f v :: rest else v :: mapFirst test f rest

/-- Changes the statements of the render body, which is the first function of its name that stands
directly in the entry function. -/
def onRenderBody (name : String) (f : List Json → List Json) (entry : Json) : Json :=
  onBody (mapFirst (Node.isFunctionNamed · name) (onBody f)) entry

/-! ### The resolution -/

variable (config : Config)

/-- The statements of a render body after the scan. -/
def scanned (statements : List Json) : List Json :=
  (ReferenceScan.statements statements (.fresh config (.empty config.trace))).1

/-- The module that an import declaration names ends with the suffix of the runtime. -/
def namesRuntime (declaration : Json) : Bool :=
  (((declaration.get? "source").bind (·.get? "value")).bind text?).any fun source =>
    RuntimeImport.endsWith source config.runtimeSuffix

/-- The specifiers of an import, with one for the resolver behind them unless they bind its local
name already. -/
def withResolver : Json → Json
  | .arr specifiers =>
    if specifiers.any (Node.bindsLocal config.resolverLocalName) then .arr specifiers
    else .arr (specifiers ++
      [Node.importSpecifier (.str config.resolverImportName) (.str config.resolverLocalName)])
  | v => v

/-- What becomes of a node, other than a program, that stands directly in a reached program; nothing
if it is taken out. -/
def resolvedStatement? (v : Json) : Option Json :=
  if Node.isFunctionNamed v config.renderEntryName then
    some (onRenderBody config.renderBodyName (scanned config) v)
  else if Node.isFunctionNamed v config.missingReferenceName then none
  else if v.isKind "ImportDeclaration" && namesRuntime config v then
    some (v.update "specifiers" (withResolver config))
  else some v

mutual

/-- What becomes of a value that is the root or stands directly in a reached program. -/
def resolved? : Json → Option Json
  | .obj fields =>
    if (Json.obj fields).isKind "Program" then some (.obj (resolvedFields fields))
    else resolvedStatement? config (.obj fields)
  | v => some v

/-- The fields of a reached program after the resolution. -/
def resolvedFields : List (String × Json) → List (String × Json)
  | [] => []
  | (key, .arr items) :: rest =>
    (key, if key = "type" then .arr items else .arr (resolvedItems items)) :: resolvedFields rest
  | (key, v) :: rest =>
    (key, if key = "type" then v else (resolved? v).getD .null) :: resolvedFields rest

/-- The items of a list in a reached program after the resolution. -/
def resolvedItems : List Json → List Json
  | [] => []
  | v :: rest => (resolved? v).toList ++ resolvedItems rest

end

/-- The program after the resolution of its components. -/
def resolved (program : Json) : Json := (resolved? config program).getD .null

/-- A root after the resolution; one that is to be taken out stays. -/
def resolvedRoot (root : Json) : Json := (resolved? config root).getD root

/-! ### The nodes that the rules see -/

mutual

/-- The nodes that a resolution hands to the rules, in order: those that stand directly in a reached
program and are none themselves. -/
def subjects : Json → List Json
  | .obj fields =>
    if (Json.obj fields).isKind "Program" then subjectsInFields fields
    else if (Json.obj fields).isNode then [.obj fields] else []
  | _ => []

/-- `subjects` for the fields of a program. -/
def subjectsInFields : List (String × Json) → List Json
  | [] => []
  | (key, .arr items) :: rest =>
    (if key = "type" then [] else subjectsInItems items) ++ subjectsInFields rest
  | (key, v) :: rest => (if key = "type" then [] else subjects v) ++ subjectsInFields rest

/-- `subjects` for the items of a list. -/
def subjectsInItems : List Json → List Json
  | [] => []
  | v :: rest => subjects v ++ subjectsInItems rest

end

/-! ### Statements -/

variable {config} {v w : Json} {fields : Fields} {items : List Json} {key : String}

theorem resolvedStatement?_of_isKind_importDeclaration
    (h : v.isKind "ImportDeclaration" = true) :
    resolvedStatement? config v = some (if namesRuntime config v then
      v.update "specifiers" (withResolver config) else v) := by
  have hfun : v.isKind "FunctionDeclaration" = false := isKind_eq_false_of_isKind h (by decide)
  simp only [resolvedStatement?, Node.isFunctionNamed, hfun, h, Bool.false_and, Bool.true_and,
    Bool.false_eq_true, if_false]
  split_ifs <;> rfl

theorem resolvedStatement?_of_other
    (hi : ¬ v.isKind "ImportDeclaration" = true) (hf : ¬ v.isKind "FunctionDeclaration" = true) :
    resolvedStatement? config v = some v := by
  simp [resolvedStatement?, Node.isFunctionNamed, hi, hf]

theorem resolvedStatement?_of_not_isNode (h : ¬ v.isNode = true) :
    resolvedStatement? config v = some v :=
  resolvedStatement?_of_other (fun hk => h (isNode_of_isKind hk)) fun hk => h (isNode_of_isKind hk)

/-- What stays keeps its type. -/
theorem kind?_resolvedStatement? (h : resolvedStatement? config v = some w) :
    w.kind? = v.kind? := by
  unfold resolvedStatement? at h
  split_ifs at h
  · rw [← Option.some.inj h, onRenderBody, onBody, kind?_update (by decide)]
  · rw [← Option.some.inj h, kind?_update (by decide)]
  · rw [← Option.some.inj h]

/-- The resolution of an object is no list. -/
theorem exists_fields_of_resolvedStatement?
    (h : resolvedStatement? config (.obj fields) = some w) : ∃ fields', w = .obj fields' := by
  unfold resolvedStatement? at h
  split_ifs at h <;> exact ⟨_, (Option.some.inj h).symm⟩

/-! ### One value -/

theorem resolved?_program (h : (Json.obj fields).isKind "Program" = true) :
    resolved? config (.obj fields) = some (.obj (resolvedFields config fields)) := by
  rw [resolved?, if_pos h]

theorem resolved?_of_not_program (h : ¬ v.isKind "Program" = true) :
    resolved? config v = resolvedStatement? config v := by
  cases v with
  | obj fields => rw [resolved?, if_neg h]
  | _ => exact (resolvedStatement?_of_not_isNode (by simp [isNode, kind?, get?])).symm

theorem resolved?_of_not_isNode (h : ¬ v.isNode = true) : resolved? config v = some v := by
  rw [resolved?_of_not_program fun hk => h (isNode_of_isKind hk),
    resolvedStatement?_of_not_isNode h]

/-- A program has a resolution. -/
theorem resolved?_eq_resolved (hp : v.isKind "Program" = true) :
    resolved? config v = some (resolved config v) := by
  obtain ⟨fields, rfl⟩ := exists_fields_of_isNode (isNode_of_isKind hp)
  rw [resolved, resolved?_program hp, Option.getD_some]

theorem resolvedRoot_program (hp : v.isKind "Program" = true) :
    resolvedRoot config v = resolved config v := by
  rw [resolvedRoot, resolved?_eq_resolved hp, Option.getD_some]

theorem subjects_program (h : (Json.obj fields).isKind "Program" = true) :
    subjects (.obj fields) = subjectsInFields fields := by
  rw [subjects, if_pos h]

theorem subjects_of_not_program (hv : v.isNode = true) (h : ¬ v.isKind "Program" = true) :
    subjects v = [v] := by
  obtain ⟨fields, rfl⟩ := exists_fields_of_isNode hv
  rw [subjects, if_neg h, if_pos hv]

theorem subjects_of_not_isNode (h : ¬ v.isNode = true) : subjects v = [] := by
  cases v with
  | obj fields => rw [subjects, if_neg fun hk => h (isNode_of_isKind hk), if_neg h]
  | _ => rfl

/-! ### Items and fields -/

theorem resolvedItems_eq_filterMap (items : List Json) :
    resolvedItems config items = items.filterMap (resolved? config) := by
  induction items with
  | nil => rfl
  | cons v rest ih =>
    rw [resolvedItems, ih]
    cases h : resolved? config v with
    | none => rw [List.filterMap_cons_none h, Option.toList_none, List.nil_append]
    | some w => rw [List.filterMap_cons_some h, Option.toList_some, List.singleton_append]

theorem subjectsInItems_eq_flatMap (items : List Json) :
    subjectsInItems items = items.flatMap subjects := by
  induction items with
  | nil => rfl
  | cons v rest ih => rw [subjectsInItems, ih, List.flatMap_cons]

variable (config) in
/-- What becomes of the value of a field of a reached program. -/
def resolvedValue : Json → Json
  | .arr items => .arr (resolvedItems config items)
  | v => (resolved? config v).getD .null

theorem resolvedValue_arr (items : List Json) :
    resolvedValue config (.arr items) = .arr (resolvedItems config items) := rfl

theorem resolvedValue_obj (fields : Fields) :
    resolvedValue config (.obj fields) = (resolved? config (.obj fields)).getD .null := rfl

/-- The values that stand in a field, in a list or alone. -/
def standing : Json → List Json
  | .arr items => items
  | v => [v]

theorem standing_obj (fields : Fields) : standing (.obj fields) = [.obj fields] := rfl

theorem resolvedFields_cons (key : String) (v : Json) (rest : List (String × Json)) :
    resolvedFields config ((key, v) :: rest) =
      (key, if key = "type" then v else resolvedValue config v) :: resolvedFields config rest := by
  cases v with
  | arr items => rw [resolvedFields, resolvedValue]
  | _ => rw [resolvedFields, resolvedValue] <;> exact fun _ => Json.noConfusion

theorem subjectsInFields_cons (key : String) (v : Json) (rest : List (String × Json)) :
    subjectsInFields ((key, v) :: rest) =
      (if key = "type" then [] else (standing v).flatMap subjects) ++ subjectsInFields rest := by
  cases v with
  | arr items => rw [subjectsInFields, standing, subjectsInItems_eq_flatMap]
  | _ =>
    rw [subjectsInFields, standing, List.flatMap_singleton] <;> exact fun _ => Json.noConfusion

theorem get?_resolvedFields : Fields.get? key (resolvedFields config fields) =
    (Fields.get? key fields).map fun v => if key = "type" then v else resolvedValue config v := by
  induction fields with
  | nil => rfl
  | cons field rest ih =>
    obtain ⟨k, v⟩ := field
    rw [resolvedFields_cons, Fields.get?_cons, Fields.get?_cons, ih]
    split_ifs with hk <;> simp_all

theorem map_fst_resolvedFields :
    (resolvedFields config fields).map Prod.fst = fields.map Prod.fst := by
  induction fields with
  | nil => rfl
  | cons field rest ih =>
    obtain ⟨k, v⟩ := field
    rw [resolvedFields_cons, List.map_cons, List.map_cons, ih]

theorem resolvedValue_of_slot_none (h : Slot.of? v = none) : resolvedValue config v = v := by
  cases v with
  | arr items =>
    have hitems : ∀ v ∈ items, resolved? config v = some v := fun v hv =>
      resolved?_of_not_isNode fun hn => by
        have hany : items.any isNode = true := List.any_eq_true.2 ⟨v, hv, hn⟩
        simp [Slot.of?, hany] at h
    rw [resolvedValue, resolvedItems_eq_filterMap, List.filterMap_congr hitems,
      List.filterMap_some]
  | obj fields =>
    have hv : ¬ (Json.obj fields).isNode = true := fun hn => by simp [Slot.of?, hn] at h
    exact congrArg (·.getD .null) (resolved?_of_not_isNode hv)
  | _ => rfl

theorem subjects_of_slot_none (h : Slot.of? v = none) : (standing v).flatMap subjects = [] := by
  refine List.flatMap_eq_nil_iff.2 fun w hw => subjects_of_not_isNode fun hn => ?_
  cases v with
  | arr items =>
    have hany : items.any isNode = true := List.any_eq_true.2 ⟨w, hw, hn⟩
    simp [Slot.of?, hany] at h
  | _ =>
    rw [List.mem_singleton.1 hw] at hn
    simp [Slot.of?, hn] at h

/-! ### Induction over the reached programs -/

/-- Induction over what a resolution reaches: from the values that stand in the fields of a program
to the program. -/
@[elab_as_elim]
theorem induct {motive : Json → Prop} (v : Json)
    (other : ∀ v, ¬ v.isKind "Program" = true → motive v)
    (program : ∀ fields : Fields, (Json.obj fields).isKind "Program" = true →
      (∀ field ∈ fields, ∀ v ∈ standing field.2, motive v) → motive (.obj fields)) :
    motive v := by
  -- a list is no node, yet its items stand in the program
  suffices ∀ v, motive v ∧ ∀ w ∈ standing v, motive w from (this v).1
  intro v
  induction v using Json.induct with
  | scalar v hi hf =>
    have hv : motive v := other v fun hp => by
      obtain ⟨fields, rfl⟩ := exists_fields_of_isNode (isNode_of_isKind hp)
      cases hf
    have hself : standing v = [v] := by
      cases v with
      | arr items => cases hi
      | _ => rfl
    refine ⟨hv, fun w hw => ?_⟩
    rw [hself, List.mem_singleton] at hw
    rwa [hw]
  | arr items ih =>
    exact ⟨other _ (by simp [isKind, kind?, get?]), fun w hw => (ih w hw).1⟩
  | obj fields ih =>
    have hv : motive (.obj fields) := by
      by_cases hp : (Json.obj fields).isKind "Program" = true
      · exact program fields hp fun field hf => (ih field hf).2
      · exact other _ hp
    exact ⟨hv, fun w hw => List.mem_singleton.1 hw ▸ hv⟩

/-- A node that stays keeps its type. -/
theorem kind?_resolved? (h : resolved? config v = some w) : w.kind? = v.kind? := by
  by_cases hp : v.isKind "Program" = true
  · obtain ⟨fields, rfl⟩ := exists_fields_of_isNode (isNode_of_isKind hp)
    rw [resolved?_program hp] at h
    rw [← Option.some.inj h]
    simp [kind?, get?, get?_resolvedFields]
  · exact kind?_resolvedStatement? (resolved?_of_not_program hp ▸ h)

theorem mem_subjectsInFields (h : w ∈ subjectsInFields fields) :
    ∃ field ∈ fields, ∃ v ∈ standing field.2, w ∈ subjects v := by
  induction fields with
  | nil => cases h
  | cons field rest ih =>
    obtain ⟨key, v⟩ := field
    rw [subjectsInFields_cons, List.mem_append] at h
    rcases h with h | h
    · split_ifs at h
      · cases h
      · obtain ⟨u, hu, hw⟩ := List.mem_flatMap.1 h
        exact ⟨_, List.mem_cons_self, u, hu, hw⟩
    · obtain ⟨field, hf, hw⟩ := ih h
      exact ⟨field, List.mem_cons_of_mem _ hf, hw⟩

/-- Only nodes are handed to the rules, and no programs. -/
theorem of_mem_subjects (h : w ∈ subjects v) :
    w.isNode = true ∧ ¬ w.isKind "Program" = true := by
  induction v using induct with
  | other v hp =>
    by_cases hv : v.isNode = true
    · rw [subjects_of_not_program hv hp, List.mem_singleton] at h
      rw [h]
      exact ⟨hv, hp⟩
    · rw [subjects_of_not_isNode hv] at h
      cases h
  | program fields hp ih =>
    rw [subjects_program hp] at h
    obtain ⟨field, hf, v, hv, hw⟩ := mem_subjectsInFields h
    exact ih field hf v hv hw

end Program

end ComponentLookup
