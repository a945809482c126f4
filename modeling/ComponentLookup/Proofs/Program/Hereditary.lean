import ComponentLookup.Proofs.Json.Distinct
import ComponentLookup.Proofs.Rule.Builtin

/-!
# What a resolution keeps of the values in a program

A resolution puts a program together from parts of the old one, from texts, and from nodes that it
builds of both, with their own fields once each.  So every hereditary condition on values holds of
the resolved program if it holds of the program (`Program.hereditary_resolved`).  In particular no
field name comes twice (`Program.distinctKeys_resolved`), and what a resolution returns can be
resolved again.
-/

namespace ComponentLookup

open Json

variable {P : Json → Prop} {v w : Json}

/-! ### Statements of a render body -/

namespace ReferenceScan

variable {localName : String} {s s' branch e : Json}

theorem hereditary_assignment (h : Hereditary P) {left right operator : Json} (hl : P left)
    (hr : P right) (ho : P operator) : P (Node.assignment left right operator) :=
  h.obj_iff.2 ⟨by simp, by simp [hl, hr, ho, h.str]⟩

theorem hereditary_resolverCall (h : Hereditary P) {m : Node.IdentifierCall}
    (hm : Node.identifierCall? e = some m) (he : P e) (localName : String) :
    P (resolverCall localName m) := by
  obtain ⟨-, hcall, hcallee, -, harguments⟩ := Node.identifierCall?_eq_some_iff.1 hm
  rw [resolverCall, hcall]
  refine h.set (h.set he (h.set (h.get? he hcallee) (h.str localName))) ?_
  -- one argument is taken out
  exact h.arr_iff.2 fun v hv => h.mem (h.get? he harguments) (List.mem_of_mem_eraseIdx hv)

theorem hereditary_putBranchExpression (h : Hereditary P) (hb : P branch) (he : P e) :
    P (putBranchExpression branch e) := by
  unfold putBranchExpression
  split_ifs
  · exact h.set hb he
  · split
    · rename_i statement hs
      have hbody := (Node.blockStatements?_eq_some_iff.1 hs).2
      have hstatement := h.mem (h.get? hb hbody) List.mem_cons_self
      refine h.set hb (h.arr_iff.2 fun v hv => ?_)
      rw [List.mem_singleton.1 hv]
      exact h.set hstatement he
    · exact hb

theorem hereditary_accepted? (h : Hereditary P) (ha : accepted? localName s = some s')
    (hs : P s) : P s' := by
  unfold accepted? at ha
  split_ifs at ha
  · rw [← Option.some.inj ha]
    exact h.set hs (h.str _)
  · obtain ⟨check, hc, ha⟩ := Option.map_eq_some_iff.1 ha
    cases hm : Node.identifierCall? check.expression with
    | none =>
      simp only [hm] at ha
      rwa [← ha]
    | some m =>
      obtain ⟨branch, hb, hsole, hresolve⟩ := resolve_eq hc
      obtain ⟨-, -, hi, -, he, -⟩ := Node.missingReferenceCheck?_eq_some_iff.1 hc
      obtain ⟨test, ht, hi⟩ := Option.bind_eq_some_iff.1 hi
      -- the identifier comes from the test, and the arguments from the branch
      have hidentifier := h.get? (h.get? hs ht) (Node.negatedIdentifier?_eq_some_iff.1 hi).2.2.1
      have hbranch := h.get? hs hb
      have hstatement : P check.expressionStatement := by
        rcases (Node.soleExpressionStatement?_eq_some_iff.1 hsole).2 with heq | hblock
        · rwa [← heq]
        · exact h.mem (h.get? hbranch (Node.blockStatements?_eq_some_iff.1 hblock).2)
            List.mem_cons_self
      have hcall := hereditary_resolverCall h hm (h.get? hstatement he) localName
      simp only [hm, hresolve] at ha
      rw [← ha]
      exact h.set hs (hereditary_putBranchExpression h hbranch
        (hereditary_assignment h hidentifier hcall (h.str _)))

theorem hereditary_rewritten (h : Hereditary P) {body : List Json} (hbody : ∀ s ∈ body, P s) :
    ∀ s ∈ rewritten localName body, P s := by
  induction body with
  | nil => exact hbody
  | cons s rest ih =>
    rw [List.forall_mem_cons] at hbody
    cases ha : accepted? localName s with
    | none => simpa only [rewritten, ha, List.forall_mem_cons] using hbody
    | some s' =>
      simp only [rewritten, ha, List.forall_mem_cons]
      exact ⟨hereditary_accepted? h ha hbody.1, ih hbody.2⟩

end ReferenceScan

namespace Program

variable {config : Config} {f : List Json → List Json}

/-! ### Functions and imports -/

/-- The change of statements keeps the condition. -/
def Keeps (P : Json → Prop) (f : List Json → List Json) : Prop :=
  ∀ statements : List Json, (∀ s ∈ statements, P s) → ∀ s ∈ f statements, P s

theorem hereditary_onBody (h : Hereditary P) (hf : Keeps P f) (hv : P v) : P (onBody f v) := by
  refine h.update hv fun block hblock => ?_
  have hd := h.get? hv hblock
  unfold onBlock
  split
  · rename_i statements hs
    have hbody := h.get? hd (Node.blockStatements?_eq_some_iff.1 hs).2
    exact h.set hd (h.arr_iff.2 (hf statements fun s => h.mem hbody))
  · exact hd

theorem keeps_mapFirst {test : Json → Bool} {f : Json → Json} (hf : ∀ v : Json, P v → P (f v)) :
    Keeps P (mapFirst test f) := by
  intro statements h
  induction statements with
  | nil => exact h
  | cons s rest ih =>
    rw [List.forall_mem_cons] at h
    simp only [mapFirst]
    split_ifs <;> rw [List.forall_mem_cons]
    · exact ⟨hf s h.1, h.2⟩
    · exact ⟨h.1, ih h.2⟩

theorem keeps_scanned (h : Hereditary P) : Keeps P (scanned config) := by
  intro statements hstatements
  rw [scanned_eq]
  exact ReferenceScan.hereditary_rewritten h hstatements

theorem hereditary_identifier (h : Hereditary P) (hv : P v) : P (Node.identifier v) :=
  h.obj_iff.2 ⟨by simp, by simp [hv, h.str]⟩

theorem hereditary_importSpecifier (h : Hereditary P) (hv : P v) (hw : P w) :
    P (Node.importSpecifier v w) :=
  h.obj_iff.2 ⟨by simp, by
    simp [hereditary_identifier h hv, hereditary_identifier h hw, h.str]⟩

theorem hereditary_withResolver (h : Hereditary P) {specifiers : Json} (hs : P specifiers) :
    P (withResolver config specifiers) := by
  unfold withResolver
  split
  · rename_i items
    split_ifs
    · exact hs
    · refine h.arr_iff.2 fun v hv => ?_
      rcases List.mem_append.1 hv with hv | hv
      · exact h.mem hs hv
      · rw [List.mem_singleton.1 hv]
        exact hereditary_importSpecifier h (h.str _) (h.str _)
  · exact hs

theorem hereditary_resolvedStatement? (h : Hereditary P)
    (hw : resolvedStatement? config v = some w) (hv : P v) : P w := by
  unfold resolvedStatement? at hw
  split_ifs at hw <;> rw [← Option.some.inj hw]
  · exact hereditary_onBody h
      (keeps_mapFirst fun v => hereditary_onBody h (keeps_scanned h)) hv
  · exact h.update hv fun specifiers hs => hereditary_withResolver h (h.get? hv hs)
  · exact hv

/-! ### Programs -/

theorem hereditary_resolvedValue (h : Hereditary P)
    (ih : ∀ u ∈ standing v, ∀ w, resolved? config u = some w → P u → P w) (hv : P v) :
    P (resolvedValue config v) := by
  cases v with
  | arr items =>
    rw [resolvedValue_arr, resolvedItems_eq_filterMap]
    refine h.arr_iff.2 fun w hw => ?_
    obtain ⟨u, hu, hr⟩ := List.mem_filterMap.1 hw
    exact ih u hu w hr (h.mem hv hu)
  | obj fields =>
    rw [resolvedValue_obj]
    cases hr : resolved? config (.obj fields) with
    | none => exact h.null
    | some w => exact ih _ List.mem_cons_self w hr hv
  | _ => exact hv

theorem hereditary_resolvedFields (h : Hereditary P) {fields : Fields}
    (ih : ∀ field ∈ fields, ∀ v ∈ standing field.2, ∀ w,
      resolved? config v = some w → P v → P w)
    (hfields : ∀ field ∈ fields, P field.2) :
    ∀ field ∈ resolvedFields config fields, P field.2 := by
  induction fields with
  | nil => exact hfields
  | cons field rest ihrest =>
    obtain ⟨key, v⟩ := field
    rw [List.forall_mem_cons] at hfields
    rw [resolvedFields_cons, List.forall_mem_cons]
    refine ⟨?_, ihrest (fun field hf => ih field (List.mem_cons_of_mem _ hf)) hfields.2⟩
    dsimp only
    split_ifs
    · exact hfields.1
    · exact hereditary_resolvedValue h (ih _ List.mem_cons_self) hfields.1

theorem hereditary_resolved? (h : Hereditary P) (hw : resolved? config v = some w) (hv : P v) :
    P w := by
  induction v using induct generalizing w with
  | other v hp =>
    rw [resolved?_of_not_program hp] at hw
    exact hereditary_resolvedStatement? h hw hv
  | program fields hp ih =>
    rw [resolved?_program hp] at hw
    rw [← Option.some.inj hw]
    -- the names of the fields stay, and their values are those of the induction
    obtain ⟨hnodup, hfields⟩ := h.obj_iff.1 hv
    refine h.obj_iff.2 ⟨by rwa [map_fst_resolvedFields], ?_⟩
    exact hereditary_resolvedFields h (fun field hf v hv w => ih field hf v hv) hfields

/-- **A resolved program** satisfies the conditions that the program does. -/
theorem hereditary_resolved (h : Hereditary P) (hp : v.isKind "Program" = true) (hv : P v) :
    P (resolved config v) :=
  hereditary_resolved? h (resolved?_eq_resolved hp) hv

/-- A resolved program repeats no field name. -/
theorem distinctKeys_resolved (hp : v.isKind "Program" = true) (hv : v.DistinctKeys) :
    (resolved config v).DistinctKeys :=
  hereditary_resolved hereditary_distinctKeys hp hv

end Program

end ComponentLookup
