import ComponentLookup.Config.Checked

/-!
# Settings laid over each other

Named values make a configuration through the value that each of its fields is given
(`Config.given`), and through nothing else (`Config.ofFields_congr`).  So of settings with others
laid over them

* names that are no fields do not matter (`Config.known`),
* and neither do values that the upper settings give anew (`Config.overlay`): **what is overridden
  is never checked** (`Config.ofFields_overlay_congr`).

What is wrong with settings is wrong with values that are given for fields
(`Config.within_ofFields`).
-/

namespace ComponentLookup.Config

variable {settings settings' base base' upper : Settings} {key : String}

/-- The settings that a configuration has fields for. -/
def known (settings : Settings) : Settings :=
  settings.filter fun setting => setting.1 ∈ keys

/-- Settings with others laid over them: those that are not given anew, and the upper ones. -/
def overlay (base upper : Settings) : Settings :=
  base.filter (fun setting => (given upper setting.1).isNone) ++ upper

/-! ### What is given -/

theorem given_append (base upper : Settings) (key : String) :
    given (base ++ upper) key = (given upper key).or (given base key) := by
  unfold given
  rw [List.reverse_append, List.find?_append, Option.map_or]

/-- Values of other names may be left out. -/
theorem given_filter {p : String × Scalar → Bool} (h : ∀ v, p (key, v) = true) :
    given (settings.filter p) key = given settings key := by
  unfold given
  rw [← List.filter_reverse, List.find?_filter]
  refine congrArg (Option.map Prod.snd) (congrArg (List.find? · _) (funext fun setting => ?_))
  by_cases hkey : setting.1 = key
  · subst hkey
    simp [h]
  · simp [hkey]

theorem given_known (h : key ∈ keys) : given (known settings) key = given settings key :=
  given_filter fun _ => decide_eq_true h

theorem given_overlay (base upper : Settings) (key : String) :
    given (overlay base upper) key = (given upper key).or (given base key) := by
  rw [overlay, given_append]
  cases hupper : given upper key with
  | some v => rfl
  | none => rw [given_filter fun _ => by rw [hupper]; rfl]

/-! ### What is made of it -/

theorem key_mem_keys (field : NameField) : field.key ∈ keys := by
  cases field <;> decide

/-- A configuration is made of the values of its fields. -/
theorem ofFields_congr (h : ∀ key ∈ keys, given settings key = given settings' key) :
    ofFields settings = ofFields settings' := by
  have hname : checkName settings = checkName settings' := funext fun field => by
    rw [checkName, checkName, h _ (key_mem_keys field)]
  have htrace : checkTrace settings = checkTrace settings' := by
    rw [checkTrace, checkTrace, h _ (by decide)]
  unfold ofFields
  rw [hname, htrace]

/-- Settings written behind others are laid over them. -/
theorem ofFields_append (base upper : Settings) :
    ofFields (base ++ upper) = ofFields (overlay (known base) upper) :=
  ofFields_congr fun key h => by rw [given_append, given_overlay, given_known h]

/-- **Names that are no fields and values that are given anew do not matter.** -/
theorem ofFields_overlay_congr
    (h : ∀ key ∈ keys, given upper key = none → given base' key = given base key) :
    ofFields (overlay (known base') upper) = ofFields (overlay (known base) upper) := by
  refine ofFields_congr fun key hkey => ?_
  rw [given_overlay, given_overlay, given_known hkey, given_known hkey]
  cases hupper : given upper key with
  | some v => rfl
  | none => rw [h key hkey hupper]

/-! ### What is wrong with it -/

/-- Each violation that a check reports has the property. -/
def Within {α : Type} (P : Violation → Prop) (check : Checked α) : Prop :=
  ∀ violations, check = .error violations → ∀ violation ∈ violations, P violation

section Within

variable {α β : Type} {P : Violation → Prop} {a : Checked α} {b : Checked β}

theorem Within.both (ha : Within P a) (hb : Within P b) : Within P (Checked.both a b) := by
  intro violations h violation hmem
  cases a with
  | ok _ =>
    cases b with
    | ok _ => cases h
    | error _ => cases h; exact hb _ rfl violation hmem
  | error es =>
    cases b with
    | ok _ => cases h; exact ha _ rfl violation hmem
    | error fs =>
      cases h
      rcases List.mem_append.1 hmem with hmem | hmem
      · exact ha es rfl violation hmem
      · exact hb fs rfl violation hmem

theorem Within.map (ha : Within P a) (f : α → β) : Within P (a.map f) := by
  cases a with
  | ok _ => exact nofun
  | error es =>
    intro violations h
    cases h
    exact ha es rfl

theorem within_leaf {place : List Violation.Step} (h : ∀ cause, P { place, cause })
    (result : Except Violation.Cause α) : Within P (Checked.leaf place result) := by
  cases result with
  | ok _ => exact nofun
  | error cause =>
    intro violations heq violation hmem
    cases heq
    rw [List.mem_singleton.1 hmem]
    exact h cause

end Within

/-- The violation is one of a value that is given for a field. -/
def IsGiven (settings : Settings) (violation : Violation) : Prop :=
  ∃ key ∈ keys, violation.place = [.field key] ∧ (given settings key).isSome = true

theorem within_checkName (settings : Settings) (field : NameField) :
    Within (IsGiven settings) (checkName settings field) := by
  unfold checkName
  cases h : given settings field.key with
  | some v => exact within_leaf (fun _ => ⟨_, key_mem_keys field, rfl, by rw [h]; rfl⟩) _
  | none => exact nofun

theorem within_checkTrace (settings : Settings) :
    Within (IsGiven settings) (checkTrace settings) := by
  unfold checkTrace
  cases h : given settings traceKey with
  | some v => exact within_leaf (fun _ => ⟨traceKey, by decide, rfl, by rw [h]; rfl⟩) _
  | none => exact nofun

/-- **Only values that are given for fields are found wrong.** -/
theorem within_ofFields (settings : Settings) : Within (IsGiven settings) (ofFields settings) :=
  have hname := within_checkName settings
  ((hname _).both <| (hname _).both <| (hname _).both <| (hname _).both <| (hname _).both <|
    (hname _).both <| within_checkTrace settings).map _

end ComponentLookup.Config
