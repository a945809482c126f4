import ComponentLookup.Proofs.Json.Edit
import ComponentLookup.Proofs.Program.Names
import ComponentLookup.Proofs.Program.Site

/-!
# The edits of a resolution

What a resolution does to a program, as a list of edits with their places (`Program.edits`).  There
are three kinds of them (`Program.IsEdit`): the helper is taken out, an import gains the resolver,
and a statement of a render body is changed by the scan.

* `Program.replay_edits` : the edits, made in the program, give the resolved program.
* `Program.origin_edits` : they are at different places of the program, in the order of these.
* `Program.after_edits` : so is what they leave, in the resolved program.

So they lead from the one to the other (`Program.lead_edits`).

The three facts are proved along the recursion of the resolution: for the statements of a render
body, for what stands directly in a program, and for the lists and fields that it stands in.  An
item that is taken out moves the items behind it, so that the places before and after are counted
apart.
-/

namespace ComponentLookup

open Json

/-! ### Edits of a scan -/

namespace ReferenceScan

/-- The edits that a scan makes in a list, of the statements from an index on. -/
def edits (localName : String) : Nat → List Json → List Edit
  | _, [] => []
  | index, s :: rest =>
    match accepted? localName s with
    | none => []
    | some s' =>
      (if changes s then [⟨[.item index], s, some ([.item index], s')⟩] else []) ++
        edits localName (index + 1) rest

variable {localName : String} {s s' : Json} {statements : List Json} {e : Edit}

theorem edits_of_accepted?_eq_none (index : Nat) (h : accepted? localName s = none) :
    edits localName index (s :: statements) = [] := by
  simp [edits, h]

theorem edits_of_accepted? (index : Nat) (h : accepted? localName s = some s') :
    edits localName index (s :: statements) =
      (if changes s then [⟨[.item index], s, some ([.item index], s')⟩] else []) ++
        edits localName (index + 1) statements := by
  simp [edits, h]

theorem replay_edits (localName : String) (done statements : List Json) :
    replay (edits localName done.length statements) (.arr (done ++ statements)) =
      some (.arr (done ++ rewritten localName statements)) := by
  induction statements generalizing done with
  | nil => rfl
  | cons s rest ih =>
    cases ha : accepted? localName s with
    | none => simp [edits_of_accepted?_eq_none _ ha, rewritten, ha]
    | some s' =>
      have hrest := ih (done ++ [s])
      simp only [List.length_append, List.length_singleton, List.append_assoc,
        List.singleton_append] at hrest
      rw [edits_of_accepted? _ ha, replay_append, hrest, Option.bind_some]
      simp only [rewritten, ha]
      split_ifs with hc
      · simp [replay_cons, Edit.apply, replace?, alter_item_append]
      · -- nothing to do at this statement
        have hself : s' = s := by
          by_contra hne
          exact hc ((accepted_ne_iff ha).1 hne)
        rw [hself, replay_nil]

theorem origin_edits (localName : String) (index : Nat) (statements : List Json) :
    ((edits localName index statements).map Edit.origin).Sublist
      (placesInItems index statements) := by
  induction statements generalizing index with
  | nil => exact List.nil_sublist _
  | cons s rest ih =>
    cases ha : accepted? localName s with
    | none => simp [edits_of_accepted?_eq_none _ ha]
    | some s' =>
      rw [edits_of_accepted? _ ha, List.map_append]
      refine List.Sublist.append ?_ (ih (index + 1))
      split_ifs
      · exact (sublist_places_self s).map (Prod.map (.item index :: ·) id)
      · exact List.nil_sublist _

theorem after_edits (localName : String) (index : Nat) (statements : List Json) :
    ((edits localName index statements).filterMap Edit.after).Sublist
      (placesInItems index (rewritten localName statements)) := by
  induction statements generalizing index with
  | nil => exact List.nil_sublist _
  | cons s rest ih =>
    cases ha : accepted? localName s with
    | none => simp [edits_of_accepted?_eq_none _ ha]
    | some s' =>
      simp only [edits_of_accepted? _ ha, List.filterMap_append, rewritten, ha]
      refine List.Sublist.append ?_ (ih (index + 1))
      split_ifs
      · exact (sublist_places_self s').map (Prod.map (.item index :: ·) id)
      · exact List.nil_sublist _

theorem of_mem_edits {index : Nat} (h : e ∈ edits localName index statements) :
    ∃ i s s', accepted? localName s = some s' ∧ changes s = true ∧
      e = ⟨[.item i], s, some ([.item i], s')⟩ := by
  induction statements generalizing index with
  | nil => cases h
  | cons s rest ih =>
    cases ha : accepted? localName s with
    | none =>
      rw [edits_of_accepted?_eq_none _ ha] at h
      cases h
    | some s' =>
      rw [edits_of_accepted? _ ha, List.mem_append] at h
      rcases h with h | h
      · split_ifs at h with hc
        · exact ⟨index, s, s', ha, hc, List.mem_singleton.1 h⟩
        · cases h
      · exact ih h

end ReferenceScan

namespace Program

variable {config : Config} {v w body : Json} {fields : Fields} {items inner : List Json}
  {e : Edit} {p q : Path} {name : String}

/-! ### The place of the render body -/

/-- The place of the statements of the render body in the entry function. -/
def renderBodyPath (name : String) (entry : Json) : Path :=
  [.field "body", .field "body",
    .item (((body? entry).getD []).findIdx (Node.isFunctionNamed · name)),
    .field "body", .field "body"]

theorem getElem?_findIdx {test : Json → Bool} (h : items.find? test = some v) :
    items[items.findIdx test]? = some v := by
  induction items with
  | nil => cases h
  | cons w rest ih =>
    by_cases ht : test w = true
    · rw [List.find?_cons_of_pos ht] at h
      simp [List.findIdx_cons, ht, h]
    · rw [List.find?_cons_of_neg ht] at h
      simp [List.findIdx_cons, ht, ih h]

theorem alterItem_findIdx {test : Json → Bool} {f : Json → Json} {g : Json → Option Json}
    (h : items.find? test = some v) (hg : g v = some (f v)) :
    alterItem g (items.findIdx test) items = mapFirst test f items := by
  induction items with
  | nil => cases h
  | cons w rest ih =>
    by_cases ht : test w = true
    · rw [List.find?_cons_of_pos ht] at h
      cases h
      simp [List.findIdx_cons, ht, alterItem, mapFirst, hg]
    · rw [List.find?_cons_of_neg ht] at h
      simp [List.findIdx_cons, ht, alterItem, mapFirst, ih h]

/-- What is done to the list of statements of a function, is done to the function. -/
theorem replace?_onBody {new : Option Json} {f : List Json → List Json} {statements : List Json}
    (hs : body? v = some statements)
    (h : replace? new p (.arr statements) = some (.arr (f statements))) :
    replace? new (.field "body" :: .field "body" :: p) v = some (onBody f v) := by
  refine congrArg some (update_congr fun block hblock => ?_)
  have hb : Node.blockStatements? block = some statements := by
    rwa [body?, hblock, Option.bind_some] at hs
  have hget := (Node.blockStatements?_eq_some_iff.1 hb).2
  simp only [replace?, alter, Option.getD_some, onBlock, hb]
  rw [← set_eq_update hget, h, Option.getD_some]

theorem at?_renderBodyPath (h : renderBody? v name = some (body, inner)) :
    at? (renderBodyPath name v) v = some (.arr inner) := by
  obtain ⟨statements, hs, hb, hi⟩ := renderBody?_eq_some_iff.1 h
  rw [renderBodyPath, at?_body hs, hs, Option.getD_some, at?_item_arr, getElem?_findIdx hb,
    Option.bind_some, at?_body hi]
  rfl

theorem replace?_renderBodyPath (f : List Json → List Json)
    (h : renderBody? v name = some (body, inner)) :
    replace? (some (.arr (f inner))) (renderBodyPath name v) v = some (onRenderBody name f v) := by
  obtain ⟨statements, hs, hb, hi⟩ := renderBody?_eq_some_iff.1 h
  rw [renderBodyPath, hs]
  refine replace?_onBody hs (congrArg (some ∘ Json.arr) (alterItem_findIdx hb ?_))
  exact replace?_onBody hi rfl

/-! ### The edits of a program -/

variable (config) in
/-- The edits that a resolution makes in an entry function. -/
def entryEdits (entry : Json) : List Edit :=
  match renderBody? entry config.renderBodyName with
  | none => []
  | some (_, inner) =>
    let path := renderBodyPath config.renderBodyName entry
    (ReferenceScan.edits config.resolverLocalName 0 inner).map (Edit.under path path)

variable (config) in
/-- The edits that a resolution makes in a node, other than a program, that stands directly in a
reached program. -/
def statementEdits (v : Json) : List Edit :=
  if Node.isFunctionNamed v config.renderEntryName then entryEdits config v
  else if Node.isFunctionNamed v config.missingReferenceName then [⟨[], v, none⟩]
  else if gainsResolver config v then
    [⟨[], v, some ([], v.update "specifiers" (withResolver config))⟩]
  else []

variable (config) in
mutual

/-- The edits that a resolution makes in a value that is the root or stands directly in a reached
program. -/
def edits : Json → List Edit
  | .obj fields =>
    if (Json.obj fields).isKind "Program" then editsInFields fields
    else statementEdits config (.obj fields)
  | _ => []

/-- `edits` for the fields of a reached program. -/
def editsInFields : List (String × Json) → List Edit
  | [] => []
  | (key, .arr items) :: rest =>
    (if key = "type" then []
      else (editsInItems 0 0 items).map (Edit.under [.field key] [.field key])) ++
        editsInFields rest
  | (key, v) :: rest =>
    (if key = "type" then [] else (edits v).map (Edit.under [.field key] [.field key])) ++
      editsInFields rest

/-- `edits` for the items of a list, from an index on; a second index counts those that stay. -/
def editsInItems : Nat → Nat → List Json → List Edit
  | _, _, [] => []
  | i, j, v :: rest =>
    (edits v).map (Edit.under [.item i] [.item j]) ++
      editsInItems (i + 1) (j + (resolved? config v).toList.length) rest

end

variable (config) in
/-- The edits in the value of a field of a reached program. -/
def editsInValue : Json → List Edit
  | .arr items => editsInItems config 0 0 items
  | v => edits config v

theorem edits_program (h : (Json.obj fields).isKind "Program" = true) :
    edits config (.obj fields) = editsInFields config fields := by
  rw [edits, if_pos h]

theorem edits_of_not_program (h : ¬ v.isKind "Program" = true) :
    edits config v = statementEdits config v := by
  cases v with
  | obj fields => rw [edits, if_neg h]
  | _ => simp [edits, statementEdits, Node.isFunctionNamed, gainsResolver, canImportResolver,
      importsResolver, isKind, kind?, get?]

theorem editsInFields_cons (key : String) (v : Json) (rest : List (String × Json)) :
    editsInFields config ((key, v) :: rest) =
      (if key = "type" then []
        else (editsInValue config v).map (Edit.under [.field key] [.field key])) ++
          editsInFields config rest := by
  cases v with
  | arr items => rw [editsInFields, editsInValue]
  | _ => rw [editsInFields, editsInValue] <;> exact fun _ => Json.noConfusion

/-- What stands in a field of an object repeats no field name, if the object does not. -/
theorem distinctKeys_standing (hd : (Json.obj fields).DistinctKeys) {field : String × Json}
    (hf : field ∈ fields) (hv : v ∈ standing field.2) : v.DistinctKeys := by
  have hfield := distinctKeysFields_iff.1 hd.2 field hf
  obtain ⟨key, u⟩ := field
  cases u with
  | arr items => exact hfield.mem hv
  | _ => exact List.mem_singleton.1 hv ▸ hfield

/-! ### Kinds of edits -/

variable (config) in
/-- The path leads to the statements of the render body of an entry function. -/
def IsRenderBody (v : Json) (path : Path) : Prop :=
  ∃ p entry, at? p v = some entry ∧ Node.isFunctionNamed entry config.renderEntryName = true ∧
    (renderBody? entry config.renderBodyName).isSome = true ∧
    path = p ++ renderBodyPath config.renderBodyName entry

theorem IsRenderBody.under {path : Path} (h : IsRenderBody config w path) (hw : at? p v = some w) :
    IsRenderBody config v (p ++ path) := by
  obtain ⟨p', entry, hat, hentry, hbody, rfl⟩ := h
  refine ⟨p ++ p', entry, ?_, hentry, hbody, (List.append_assoc _ _ _).symm⟩
  rw [at?_append, hw, Option.bind_some, hat]

variable (config) in
/-- An edit of a value as a resolution makes them. -/
inductive IsEdit (v : Json) : Edit → Prop where
  /-- The helper is taken out. -/
  | removal (place : Path) (w : Json)
      (helper : Node.isFunctionNamed w config.missingReferenceName = true) :
      IsEdit v ⟨place, w, none⟩
  /-- An import gains the resolver. -/
  | augment (p q : Path) (w : Json) (gains : gainsResolver config w = true) :
      IsEdit v ⟨p, w, some (q, w.update "specifiers" (withResolver config))⟩
  /-- A statement of a render body is changed by the scan. -/
  | rewrite (path q : Path) (index : Nat) (s s' : Json) (body : IsRenderBody config v path)
      (accepted : ReferenceScan.accepted? config.resolverLocalName s = some s')
      (changes : ReferenceScan.changes s = true) :
      IsEdit v ⟨path ++ [.item index], s, some (q, s')⟩

/-- An edit changes what it does not take out. -/
theorem IsEdit.ne_before (h : IsEdit config v e) (hafter : e.after = some (q, w)) :
    w ≠ e.before := by
  cases h with
  | removal place u helper => cases hafter
  | augment p' q' u gains =>
    cases hafter
    obtain ⟨-, -, items, hs, hb⟩ := gainsResolver_iff.1 gains
    intro heq
    -- the list of specifiers has become longer
    have hget := congrArg (get? · "specifiers") heq
    simp only [get?_update_self, hs, Option.map_some, withResolver, if_neg hb] at hget
    simp at hget
  | rewrite path q' index s s' body accepted changes =>
    cases hafter
    exact (ReferenceScan.accepted_ne_iff accepted).2 changes

theorem IsEdit.under (h : IsEdit config w e) (hw : at? p v = some w) (q : Path) :
    IsEdit config v (e.under p q) := by
  cases h with
  | removal place u helper => exact .removal _ _ helper
  | augment p' q' u gains => exact .augment _ _ _ gains
  | rewrite path q' index s s' body accepted changes =>
    have hplace : p ++ (path ++ [.item index]) = (p ++ path) ++ [.item index] :=
      (List.append_assoc _ _ _).symm
    rw [Edit.under, hplace]
    exact .rewrite _ _ _ _ _ (body.under hw) accepted changes

theorem isEdit_map_under {es : List Edit} (h : ∀ e ∈ es, IsEdit config w e)
    (hw : at? p v = some w) : ∀ e ∈ es.map (Edit.under p q), IsEdit config v e := by
  intro e he
  obtain ⟨e', he', rfl⟩ := List.mem_map.1 he
  exact (h e' he').under hw q

theorem isEdit_statementEdits (v : Json) : ∀ e ∈ statementEdits config v, IsEdit config v e := by
  unfold statementEdits
  split_ifs with hentry hhelper hgains
  · unfold entryEdits
    split
    · simp
    · rename_i body inner hr
      intro e he
      obtain ⟨e', he', rfl⟩ := List.mem_map.1 he
      obtain ⟨i, s, s', ha, hc, rfl⟩ := ReferenceScan.of_mem_edits he'
      exact .rewrite _ _ i s s' ⟨[], v, rfl, hentry, by rw [hr]; rfl, rfl⟩ ha hc
  · intro e he
    rw [List.mem_singleton.1 he]
    exact .removal _ _ hhelper
  · intro e he
    rw [List.mem_singleton.1 he]
    exact .augment _ _ _ hgains
  · simp

theorem isEdit_editsInItems
    (h : ∀ v ∈ items, ∀ e ∈ edits config v, IsEdit config v e) (done : List Json) (j : Nat) :
    ∀ e ∈ editsInItems config done.length j items, IsEdit config (.arr (done ++ items)) e := by
  induction items generalizing done j with
  | nil => simp [editsInItems]
  | cons v rest ih =>
    have hv : at? [.item done.length] (.arr (done ++ v :: rest)) = some v := by
      simp [at?_item_singleton]
    have hrest := ih (fun w hw => h w (List.mem_cons_of_mem v hw)) (done ++ [v])
      (j + (resolved? config v).toList.length)
    simp only [List.length_append, List.length_singleton, List.append_assoc,
      List.singleton_append] at hrest
    intro e he
    rw [editsInItems, List.mem_append] at he
    rcases he with he | he
    · exact isEdit_map_under (h v List.mem_cons_self) hv e he
    · exact hrest e he

theorem isEdit_editsInValue (h : ∀ u ∈ standing v, ∀ e ∈ edits config u, IsEdit config u e) :
    ∀ e ∈ editsInValue config v, IsEdit config v e := by
  cases v with
  | arr items =>
    have hitems : ∀ u ∈ items, ∀ e ∈ edits config u, IsEdit config u e := h
    exact isEdit_editsInItems hitems [] 0
  | _ => exact h _ List.mem_cons_self

theorem isEdit_editsInFields
    (h : ∀ field ∈ fields, ∀ u ∈ standing field.2, ∀ e ∈ edits config u, IsEdit config u e)
    (done : Fields) (hn : ((done ++ fields).map Prod.fst).Nodup) :
    ∀ e ∈ editsInFields config fields, IsEdit config (.obj (done ++ fields)) e := by
  induction fields generalizing done with
  | nil => simp [editsInFields]
  | cons field rest ih =>
    obtain ⟨key, v⟩ := field
    have hget : (Json.obj (done ++ (key, v) :: rest)).get? key = some v :=
      Fields.get?_of_mem hn (by simp)
    have hrest := ih (fun field hf => h field (List.mem_cons_of_mem _ hf)) (done ++ [(key, v)])
      (by simpa using hn)
    simp only [List.append_assoc, List.singleton_append] at hrest
    intro e he
    rw [editsInFields_cons, List.mem_append] at he
    rcases he with he | he
    · split_ifs at he
      · cases he
      · exact isEdit_map_under (isEdit_editsInValue (h (key, v) List.mem_cons_self))
          ((at?_singleton key _).trans hget) e he
    · exact hrest e he

variable (config) in
/-- **A resolution makes no other edits.** -/
theorem isEdit_edits (hd : v.DistinctKeys) : ∀ e ∈ edits config v, IsEdit config v e := by
  induction v using induct with
  | other v hp =>
    rw [edits_of_not_program hp]
    exact isEdit_statementEdits v
  | program fields hp ih =>
    rw [edits_program hp]
    exact isEdit_editsInFields
      (fun field hf v hv => ih field hf v hv (distinctKeys_standing hd hf hv)) [] hd.1

/-! ### The edits give the resolved program -/

theorem replay_entryEdits (v : Json) : replay (entryEdits config v) v =
    some (onRenderBody config.renderBodyName (scanned config) v) := by
  cases hr : renderBody? v config.renderBodyName with
  | none =>
    have hself : onRenderBody config.renderBodyName (scanned config) v = v :=
      onRenderBody_eq_self_iff.2 fun body inner h => by rw [hr] at h; cases h
    simp [entryEdits, hr, hself]
  | some found =>
    obtain ⟨body, inner⟩ := found
    simp only [entryEdits, hr]
    have hscan := ReferenceScan.replay_edits config.resolverLocalName [] inner
    rw [List.length_nil, List.nil_append, List.nil_append, ← scanned_eq] at hscan
    rw [replay_under (at?_renderBodyPath hr) hscan, replace?_renderBodyPath (scanned config) hr]

theorem replay_statementEdits (v : Json) :
    replay (statementEdits config v) v = resolvedStatement? config v := by
  unfold statementEdits
  by_cases hgains : gainsResolver config v = true
  · obtain ⟨hk, hn, -⟩ := gainsResolver_iff.1 hgains
    have hf : v.isKind "FunctionDeclaration" = false := isKind_eq_false_of_isKind hk (by decide)
    rw [resolvedStatement?_of_isKind_importDeclaration hk, if_pos hn]
    simp [Node.isFunctionNamed, hf, hgains, replay_cons, Edit.apply, replace?]
  · unfold resolvedStatement?
    rw [if_neg hgains]
    split_ifs with hentry hhelper himport
    · exact replay_entryEdits v
    · rfl
    · rw [Bool.and_eq_true] at himport
      have hself := update_withResolver_eq_self himport.1 hgains
      rw [if_pos himport.2] at hself
      rw [hself, replay_nil]
    · rfl

/-- What is taken out is taken out by the only edit. -/
theorem edits_of_resolved?_eq_none (h : resolved? config v = none) :
    edits config v = [⟨[], v, none⟩] := by
  have hp : ¬ v.isKind "Program" = true := by
    intro hp
    rw [resolved?_eq_resolved hp] at h
    cases h
  rw [resolved?_of_not_program hp, resolvedStatement?] at h
  rw [edits_of_not_program hp, statementEdits]
  split_ifs at h ⊢
  rfl

/-- The edits in a part of a value, made in the value. -/
theorem replay_under_edits (hw : at? p v = some w)
    (h : replay (edits config w) w = resolved? config w) :
    replay ((edits config w).map (Edit.under p q)) v = replace? (resolved? config w) p v := by
  cases hr : resolved? config w with
  | none =>
    rw [edits_of_resolved?_eq_none hr]
    simp [replay_cons, Edit.apply]
  | some w' => exact replay_under hw (h.trans hr)

theorem replay_editsInItems (h : ∀ v ∈ items, replay (edits config v) v = resolved? config v)
    (done : List Json) (j : Nat) :
    replay (editsInItems config done.length j items) (.arr (done ++ items)) =
      some (.arr (done ++ resolvedItems config items)) := by
  induction items generalizing done j with
  | nil => rfl
  | cons v rest ih =>
    -- the items behind this one are done first
    have hrest := ih (fun w hw => h w (List.mem_cons_of_mem v hw)) (done ++ [v])
      (j + (resolved? config v).toList.length)
    simp only [List.length_append, List.length_singleton, List.append_assoc,
      List.singleton_append] at hrest
    have hv : at? [.item done.length] (.arr (done ++ v :: resolvedItems config rest)) =
        some v := by
      simp [at?_item_singleton]
    rw [editsInItems, replay_append, hrest, Option.bind_some,
      replay_under_edits hv (h v List.mem_cons_self), resolvedItems]
    simp only [replace?, alter_item_append, List.append_assoc]

theorem replay_editsInValue
    (h : ∀ u ∈ standing v, replay (edits config u) u = resolved? config u) {key : String}
    (hget : w.get? key = some v) :
    replay ((editsInValue config v).map (Edit.under [.field key] [.field key])) w =
      some (w.update key fun _ => resolvedValue config v) := by
  have hat : at? [.field key] w = some v := (at?_singleton key w).trans hget
  cases v with
  | arr items =>
    have hitems : ∀ u ∈ items, replay (edits config u) u = resolved? config u := h
    exact replay_under hat (replay_editsInItems hitems [] 0)
  | _ => exact replay_under_edits hat (h _ List.mem_cons_self)

theorem replay_editsInFields
    (h : ∀ field ∈ fields, ∀ v ∈ standing field.2, replay (edits config v) v = resolved? config v)
    (done : Fields) (hn : ((done ++ fields).map Prod.fst).Nodup) :
    replay (editsInFields config fields) (.obj (done ++ fields)) =
      some (.obj (done ++ resolvedFields config fields)) := by
  induction fields generalizing done with
  | nil => rfl
  | cons field rest ih =>
    obtain ⟨key, v⟩ := field
    have hrest := ih (fun field hf => h field (List.mem_cons_of_mem _ hf)) (done ++ [(key, v)])
      (by simpa using hn)
    simp only [List.append_assoc, List.singleton_append] at hrest
    rw [editsInFields_cons, replay_append, hrest, Option.bind_some, resolvedFields_cons]
    split_ifs
    · rfl
    · -- the names are still the same, so that the field is found where it stands
      have hn' : ((done ++ (key, v) :: resolvedFields config rest).map Prod.fst).Nodup := by
        simpa [map_fst_resolvedFields] using hn
      have hget : (Json.obj (done ++ (key, v) :: resolvedFields config rest)).get? key = some v :=
        Fields.get?_of_mem hn' (by simp)
      rw [replay_editsInValue (h (key, v) List.mem_cons_self) hget, ← set_eq_update hget,
        set_append hn']

/-- **The edits give the resolved program.** -/
theorem replay_edits (hd : v.DistinctKeys) :
    replay (edits config v) v = resolved? config v := by
  induction v using induct with
  | other v hp => rw [edits_of_not_program hp, resolved?_of_not_program hp, replay_statementEdits]
  | program fields hp ih =>
    rw [edits_program hp, resolved?_program hp]
    exact replay_editsInFields
      (fun field hf v hv => ih field hf v hv (distinctKeys_standing hd hf hv)) [] hd.1

/-! ### Where the edits are made -/

theorem origin_statementEdits (v : Json) :
    ((statementEdits config v).map Edit.origin).Sublist (places v) := by
  unfold statementEdits
  split_ifs
  · unfold entryEdits
    split
    · exact List.nil_sublist _
    · rename_i body inner hr
      rw [Edit.map_origin_under]
      have hscan := (ReferenceScan.origin_edits config.resolverLocalName 0 inner).cons
        ([], .arr inner)
      exact (hscan.map _).trans (sublist_places (at?_renderBodyPath hr))
  · exact sublist_places_self v
  · exact sublist_places_self v
  · exact List.nil_sublist _

theorem origin_editsInItems (h : ∀ v ∈ items, ((edits config v).map Edit.origin).Sublist (places v))
    (i j : Nat) :
    ((editsInItems config i j items).map Edit.origin).Sublist (placesInItems i items) := by
  induction items generalizing i j with
  | nil => exact List.nil_sublist _
  | cons v rest ih =>
    rw [editsInItems, List.map_append, Edit.map_origin_under]
    exact ((h v List.mem_cons_self).map _).append
      (ih (fun w hw => h w (List.mem_cons_of_mem v hw)) _ _)

theorem origin_editsInValue
    (h : ∀ u ∈ standing v, ((edits config u).map Edit.origin).Sublist (places u)) :
    ((editsInValue config v).map Edit.origin).Sublist (places v) := by
  cases v with
  | arr items =>
    have hitems : ∀ u ∈ items, ((edits config u).map Edit.origin).Sublist (places u) := h
    exact (origin_editsInItems hitems 0 0).cons _
  | _ => exact h _ List.mem_cons_self

/-- **The edits are made at different places**, in the order of these. -/
theorem origin_edits (v : Json) : ((edits config v).map Edit.origin).Sublist (places v) := by
  induction v using induct with
  | other v hp =>
    rw [edits_of_not_program hp]
    exact origin_statementEdits v
  | program fields hp ih =>
    rw [edits_program hp]
    refine List.Sublist.cons _ ?_
    clear hp
    induction fields with
    | nil => exact List.nil_sublist _
    | cons field rest ihrest =>
      obtain ⟨key, v⟩ := field
      rw [editsInFields_cons, List.map_append]
      refine List.Sublist.append ?_
        (ihrest fun field hf => ih field (List.mem_cons_of_mem _ hf))
      split_ifs
      · exact List.nil_sublist _
      · rw [Edit.map_origin_under]
        exact (origin_editsInValue (ih (key, v) List.mem_cons_self)).map _

/-! ### What the edits leave -/

theorem after_statementEdits (v : Json) :
    ((statementEdits config v).filterMap Edit.after).Sublist
      ((resolvedStatement? config v).toList.flatMap places) := by
  unfold statementEdits
  by_cases hgains : gainsResolver config v = true
  · obtain ⟨hk, hn, -⟩ := gainsResolver_iff.1 hgains
    have hf : v.isKind "FunctionDeclaration" = false := isKind_eq_false_of_isKind hk (by decide)
    rw [resolvedStatement?_of_isKind_importDeclaration hk, if_pos hn]
    simpa [Node.isFunctionNamed, hf, hgains] using sublist_places_self _
  · unfold resolvedStatement?
    rw [if_neg hgains]
    split_ifs
    · rw [Option.toList_some, List.flatMap_singleton]
      unfold entryEdits
      split
      · exact List.nil_sublist _
      · rename_i body inner hr
        have hat := at?_replace? (at?_renderBodyPath hr)
          (replace?_renderBodyPath (scanned config) hr)
        have hscan := (ReferenceScan.after_edits config.resolverLocalName 0 inner).cons
          ([], .arr (ReferenceScan.rewritten config.resolverLocalName inner))
        rw [scanned_eq] at hat
        rw [Edit.filterMap_after_under]
        exact (hscan.map _).trans (sublist_places hat)
    all_goals exact List.nil_sublist _

theorem after_editsInItems
    (h : ∀ v ∈ items, ((edits config v).filterMap Edit.after).Sublist
      ((resolved? config v).toList.flatMap places)) (i j : Nat) :
    ((editsInItems config i j items).filterMap Edit.after).Sublist
      (placesInItems j (resolvedItems config items)) := by
  induction items generalizing i j with
  | nil => exact List.nil_sublist _
  | cons v rest ih =>
    have hv := h v List.mem_cons_self
    have hrest := ih (fun w hw => h w (List.mem_cons_of_mem v hw)) (i + 1)
      (j + (resolved? config v).toList.length)
    rw [editsInItems, List.filterMap_append, Edit.filterMap_after_under, resolvedItems]
    cases hr : resolved? config v with
    | none =>
      -- nothing is left of the item, and the next one takes its place
      rw [hr] at hv hrest
      rw [List.sublist_nil.1 hv]
      exact hrest
    | some w =>
      rw [hr, Option.toList_some, List.flatMap_singleton] at hv
      rw [hr] at hrest
      exact (hv.map _).append hrest

theorem after_editsInValue
    (h : ∀ u ∈ standing v, ((edits config u).filterMap Edit.after).Sublist
      ((resolved? config u).toList.flatMap places)) :
    ((editsInValue config v).filterMap Edit.after).Sublist (places (resolvedValue config v)) := by
  cases v with
  | arr items =>
    have hitems : ∀ u ∈ items, ((edits config u).filterMap Edit.after).Sublist
      ((resolved? config u).toList.flatMap places) := h
    exact (after_editsInItems hitems 0 0).cons _
  | _ =>
    refine (h _ List.mem_cons_self).trans ?_
    simp only [resolvedValue]
    cases resolved? config _ with
    | none => exact List.nil_sublist _
    | some w => simp

variable (config) in
/-- **What the edits leave** is at different places of the resolved program, in the order of
these. -/
theorem after_edits (v : Json) : ((edits config v).filterMap Edit.after).Sublist
    ((resolved? config v).toList.flatMap places) := by
  induction v using induct with
  | other v hp =>
    rw [edits_of_not_program hp, resolved?_of_not_program hp]
    exact after_statementEdits v
  | program fields hp ih =>
    rw [edits_program hp, resolved?_program hp, Option.toList_some, List.flatMap_singleton]
    refine List.Sublist.cons _ ?_
    clear hp
    induction fields with
    | nil => exact List.nil_sublist _
    | cons field rest ihrest =>
      obtain ⟨key, v⟩ := field
      rw [editsInFields_cons, List.filterMap_append, resolvedFields_cons, placesInFields]
      refine List.Sublist.append ?_
        (ihrest fun field hf => ih field (List.mem_cons_of_mem _ hf))
      split_ifs
      · exact List.nil_sublist _
      · rw [Edit.filterMap_after_under]
        exact (after_editsInValue (ih (key, v) List.mem_cons_self)).map _

variable (config) in
/-- **The edits of a program lead to the resolved program.** -/
theorem lead_edits (hp : v.isKind "Program" = true) (hd : v.DistinctKeys) :
    Edit.Lead (edits config v) v (resolved config v) := by
  have hresolved : resolved? config v = some (resolved config v) := resolved?_eq_resolved hp
  have hresults := after_edits config v
  rw [hresolved, Option.toList_some, List.flatMap_singleton] at hresults
  exact Edit.lead_of_sublist hd (distinctKeys_resolved hp hd) ((replay_edits hd).trans hresolved)
    (origin_edits v) hresults fun e he _ _ => (isEdit_edits config hd e he).ne_before

end Program

end ComponentLookup
