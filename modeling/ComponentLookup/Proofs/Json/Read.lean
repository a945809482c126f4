import ComponentLookup.Proofs.Json.RoundTrip

/-!
# What the reader gives

A value that has been read repeats no field name, and its integers have no more digits than the
reader takes (`Json.Readable`, `Json.of_readChars`).  Both are hereditary conditions
(`Json.hereditary_without`), and for such a condition it is enough to look at the values without
parts (`Json.readsOnly`).
-/

namespace ComponentLookup

/-- Fields that are assigned one after another have distinct names. -/
theorem Fields.nodup_putAll {done fields : Fields} (h : (done.map Prod.fst).Nodup) :
    ((putAll done fields).map Prod.fst).Nodup := by
  induction fields generalizing done with
  | nil => exact h
  | cons field rest ih => exact ih (nodup_put h)

theorem Fields.forall_mem_putAll {P : Json → Prop} {done fields : Fields}
    (hdone : ∀ field ∈ done, P field.2) (h : ∀ field ∈ fields, P field.2) :
    ∀ field ∈ putAll done fields, P field.2 := by
  induction fields generalizing done with
  | nil => exact hdone
  | cons field rest ih =>
    obtain ⟨hfield, hrest⟩ := List.forall_mem_cons.1 h
    exact ih (forall_mem_put hdone hfield) hrest

namespace Json

/-! ### Hereditary conditions on numbers -/

/-- To repeat no field name and to have no number of some kind inside is a hereditary condition. -/
theorem hereditary_without {Q : Json → Prop}
    (hQ : ∀ v, Q v → (∃ n, v = .int n) ∨ ∃ x, v = .float x) :
    Hereditary fun v => v.DistinctKeys ∧ Without Q v := by
  have hparts : ∀ v : Json, (∀ n, v ≠ .int n) → (∀ x, v ≠ .float x) → ¬ Q v := by
    intro v hint hfloat hv
    rcases hQ v hv with ⟨n, hn⟩ | ⟨x, hx⟩
    · exact hint n hn
    · exact hfloat x hx
  refine {
    null := ⟨trivial, without_leaf rfl rfl (hparts _ (by simp) (by simp))⟩
    str := fun s => ⟨trivial, without_leaf rfl rfl (hparts _ (by simp) (by simp))⟩
    arr_iff := ?_
    obj_iff := ?_ }
  · intro items
    constructor
    · intro h v hv
      exact ⟨h.1.mem hv, h.2.mem hv⟩
    · intro h
      refine ⟨distinctKeysItems_iff.2 fun v hv => (h v hv).1, ?_⟩
      exact without_arr (hparts _ (by simp) (by simp)) fun v hv => (h v hv).2
  · intro fields
    constructor
    · intro h
      refine ⟨h.1.1, fun field hf => ?_⟩
      have hget : (Json.obj fields).get? field.1 = some field.2 := Fields.get?_of_mem h.1.1 hf
      exact ⟨h.1.get? hget, h.2.get? hget⟩
    · rintro ⟨hnodup, hfields⟩
      refine ⟨⟨hnodup, distinctKeysFields_iff.2 fun field hf => (hfields field hf).1⟩, ?_⟩
      refine without_of (hparts _ (by simp) (by simp)) (fun key w hget => ?_)
        fun _ hi => by cases hi
      exact (hfields _ (Fields.mem_of_get? hget)).2

theorem hereditary_withoutLongInt : Hereditary fun v => v.DistinctKeys ∧ Without IsLongInt v :=
  hereditary_without fun _ ⟨n, hn, _⟩ => .inl ⟨n, hn⟩

/-- A text can hold the value: no object inside repeats a field name, and no integer is too long to
be read. -/
def Readable (v : Json) : Prop := v.DistinctKeys ∧ Without IsLongInt v

theorem hereditary_readable : Hereditary Readable := hereditary_withoutLongInt

theorem hereditary_withoutDouble : Hereditary fun v => v.DistinctKeys ∧ Without IsDouble v :=
  hereditary_without fun _ hv => .inr hv

/-! ### Numbers -/

/-- A numeral of `n` digits stands for a number below the `n`-th power of ten. -/
theorem digitsValue_lt {ds : List Char} (h : ∀ c ∈ ds, c.isDigit = true) :
    digitsValue ds < Nat.pow 10 ds.length := by
  rw [digitsValue_eq]
  induction ds with
  | nil => decide
  | cons c ds ih =>
    obtain ⟨hc, hds⟩ := List.forall_mem_cons.1 h
    have hrest := ih hds
    have hdigit : c.toNat - '0'.toNat ≤ 9 := by
      obtain ⟨-, hnine⟩ := Char.isDigit_iff_toNat.1 hc
      exact Nat.sub_le_sub_right hnine _
    have hmul := Nat.mul_le_mul_left (Nat.pow 10 ds.length) hdigit
    rw [Nat.ofDigitChars_cons, Nat.ofDigitChars_eq_ofDigitChars_zero, List.length_cons,
      Nat.pow_eq, Nat.pow_succ, Nat.mul_zero, Nat.zero_add]
    rw [Nat.pow_eq] at hrest hmul
    omega

theorem isDigit_of_mem_integerDigits (text : List Char) :
    ∀ c ∈ (integerDigits text).1, c.isDigit = true := by
  unfold integerDigits
  split
  · intro c hc
    rw [List.mem_singleton.1 hc]
    rfl
  · exact List.all_eq_true.1 List.all_takeWhile

/-- A number that is read is a double, or an integer that is not too long. -/
theorem of_unsignedNumber {negative : Bool} {start text rest : List Char} {v : Json}
    (h : unsignedNumber negative start text = .ok (v, rest)) :
    (∃ x, v = .float x) ∨ ∃ n, v = .int n ∧ ¬ IsLong n := by
  unfold unsignedNumber at h
  split at h
  · cases h
  · rename_i whole text' hne hwhole
    have hdigits : ∀ c ∈ whole, c.isDigit = true := by
      have hall := isDigit_of_mem_integerDigits text
      rwa [hwhole] at hall
    dsimp only at h
    split at h
    · cases h
      exact .inl ⟨_, rfl⟩
    · split at h
      · by_cases hlong : maxIntegerDigits < whole.length
        · rw [if_pos hlong] at h
          cases h
        · rw [if_neg hlong] at h
          cases h
          have hlt := digitsValue_lt hdigits
          have hpow : Nat.pow 10 whole.length ≤ Nat.pow 10 maxIntegerDigits := by
            rw [Nat.pow_eq, Nat.pow_eq]
            exact Nat.pow_le_pow_right (by decide) (Nat.not_lt.1 hlong)
          refine .inr ⟨_, rfl, Nat.not_le.2 (Nat.lt_of_lt_of_le ?_ hpow)⟩
          cases negative
          · exact hlt
          · rwa [if_pos rfl, Int.natAbs_neg]
      · cases h
        exact .inl ⟨_, rfl⟩

theorem of_number {text rest : List Char} {v : Json} (h : number text = .ok (v, rest)) :
    (∃ x, v = .float x) ∨ ∃ n, v = .int n ∧ ¬ IsLong n := by
  unfold number at h
  split at h <;> exact of_unsignedNumber h

/-! ### Values -/

theorem exists_ok_of_bind {α β : Type} {x : Except Fault α} {f : α → Except Fault β} {b : β}
    (h : x >>= f = .ok b) : ∃ a, x = .ok a ∧ f a = .ok b := by
  cases x with
  | error e => cases h
  | ok a => exact ⟨a, rfl, h⟩

theorem of_word? {text rest : List Char} {v : Json} (h : word? text = some (v, rest)) :
    v = .null ∨ (∃ b, v = .bool b) ∨ ∃ x, v = .float x := by
  unfold word? at h
  split at h <;> cases h <;> simp

section

variable {P : Json → Prop}

/-- What is read with so much fuel satisfies the condition. -/
structure ReadsOnly (P : Json → Prop) (fuel : Nat) : Prop where
  value (text : List Char) (v : Json) (rest : List Char) :
    value fuel text = .ok (v, rest) → P v
  items (text : List Char) (vs : List Json) (rest : List Char) :
    items fuel text = .ok (vs, rest) → ∀ v ∈ vs, P v
  fields (text : List Char) (fs : List (String × Json)) (rest : List Char) :
    fields fuel text = .ok (fs, rest) → ∀ field ∈ fs, P field.2

/-- The items of a list are values, and then the other items. -/
theorem of_items_succ {fuel : Nat} (ih : ReadsOnly P fuel) {text rest : List Char}
    {vs : List Json} (hvs : Json.items (fuel + 1) text = .ok (vs, rest)) : ∀ v ∈ vs, P v := by
  unfold Json.items at hvs
  obtain ⟨⟨v, after⟩, hvalue, hvs⟩ := exists_ok_of_bind hvs
  have hv : P v := ih.value _ _ _ hvalue
  dsimp only at hvs
  split at hvs
  · cases hvs
    exact List.forall_mem_singleton.2 hv
  · obtain ⟨⟨others, after'⟩, hitems, hvs⟩ := exists_ok_of_bind hvs
    cases hvs
    exact List.forall_mem_cons.2 ⟨hv, ih.items _ _ _ hitems⟩
  · cases hvs

/-- Each field of an object has a value behind its name. -/
theorem of_fields_succ {fuel : Nat} (ih : ReadsOnly P fuel) {text rest : List Char}
    {fs : List (String × Json)} (hfs : Json.fields (fuel + 1) text = .ok (fs, rest)) :
    ∀ field ∈ fs, P field.2 := by
  unfold Json.fields at hfs
  split at hfs
  · obtain ⟨⟨key, afterKey⟩, -, hfs⟩ := exists_ok_of_bind hfs
    dsimp only at hfs
    split at hfs
    · obtain ⟨⟨v, after⟩, hvalue, hfs⟩ := exists_ok_of_bind hfs
      have hv : P v := ih.value _ _ _ hvalue
      dsimp only at hfs
      split at hfs
      · cases hfs
        exact List.forall_mem_singleton.2 hv
      · obtain ⟨⟨others, after'⟩, hfields, hfs⟩ := exists_ok_of_bind hfs
        cases hfs
        exact List.forall_mem_cons.2 ⟨hv, ih.fields _ _ _ hfields⟩
      · cases hfs
    · -- no colon behind the name
      cases hfs
  · -- no name
    cases hfs

variable (h : Hereditary P) (hbool : ∀ b, P (.bool b)) (hfloat : ∀ x, P (.float x))
  (hint : ∀ n, ¬ IsLong n → P (.int n))

include h hbool hfloat hint

/-- A value that is read with parts that satisfy the condition. -/
theorem of_value_succ {fuel : Nat} (ih : ReadsOnly P fuel) {text rest : List Char} {v : Json}
    (hv : value (fuel + 1) text = .ok (v, rest)) : P v := by
  unfold value at hv
  split at hv
  · -- a text
    obtain ⟨⟨s, after⟩, -, hv⟩ := exists_ok_of_bind hv
    cases hv
    exact h.str s
  · -- a list
    split at hv
    · cases hv
      exact h.arr_iff.2 (List.forall_mem_nil _)
    · obtain ⟨⟨vs, after⟩, hitems, hv⟩ := exists_ok_of_bind hv
      cases hv
      exact h.arr_iff.2 (ih.items _ _ _ hitems)
  · -- an object, in which a field takes the last value that is given to it
    split at hv
    · cases hv
      exact h.obj_iff.2 ⟨List.nodup_nil, List.forall_mem_nil _⟩
    · obtain ⟨⟨fs, after⟩, hfields, hv⟩ := exists_ok_of_bind hv
      cases hv
      exact h.obj_iff.2 ⟨Fields.nodup_putAll List.nodup_nil,
        Fields.forall_mem_putAll (List.forall_mem_nil _) (ih.fields _ _ _ hfields)⟩
  · split at hv
    · rename_i hword
      cases hv
      rcases of_word? hword with rfl | ⟨b, rfl⟩ | ⟨x, rfl⟩
      · exact h.null
      · exact hbool b
      · exact hfloat x
    · rcases of_number hv with ⟨x, rfl⟩ | ⟨n, rfl, hn⟩
      · exact hfloat x
      · exact hint n hn

/-- **Only values of a hereditary condition are read**, if all values without parts that are read
satisfy it. -/
theorem readsOnly (fuel : Nat) : ReadsOnly P fuel := by
  induction fuel with
  | zero =>
    -- without fuel nothing is read
    refine ⟨fun _ _ _ hv => ?_, fun _ _ _ hv => ?_, fun _ _ _ hv => ?_⟩ <;> cases hv
  | succ fuel ih =>
    exact ⟨fun _ _ _ => of_value_succ h hbool hfloat hint ih, fun _ _ _ => of_items_succ ih,
      fun _ _ _ => of_fields_succ ih⟩

end

/-- **What is read is readable**: it repeats no field name, and no integer in it is too long. -/
theorem of_readChars {text : List Char} {v : Json} (h : readChars text = .ok v) :
    v.Readable := by
  have hdocument : document text = .ok v := by
    unfold readChars at h
    cases hd : document text with
    | error e => rw [hd] at h; cases h
    | ok w => rw [hd] at h; exact congrArg Except.ok (Except.ok.inj h)
  obtain ⟨⟨w, rest⟩, hvalue, hrest⟩ := exists_ok_of_bind hdocument
  dsimp only at hrest
  split at hrest
  · cases hrest
    refine (readsOnly hereditary_withoutLongInt (fun b => ⟨trivial, ?_⟩) (fun x => ⟨trivial, ?_⟩)
      (fun n hn => ⟨trivial, ?_⟩) _).value _ _ _ hvalue
    · exact without_leaf rfl rfl (by rintro ⟨_, hb, -⟩; cases hb)
    · exact without_leaf rfl rfl (by rintro ⟨_, hx, -⟩; cases hx)
    · exact without_leaf rfl rfl (by rintro ⟨_, hm, hlong⟩; cases hm; exact hn hlong)
  · cases hrest

theorem of_read {text : String} {v : Json} (h : Json.read text = .ok v) : v.Readable := by
  unfold Json.read at h
  dsimp only at h
  split at h
  · cases h
  · exact of_readChars h

end Json

end ComponentLookup
