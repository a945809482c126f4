import ComponentLookup.Node.Basic

/-!
# Faults

The running functions pass over what they do not find.  The strict forms of them, which stand in the
namespaces `Strict`, make every read one after another, and each step that lacks something ends in a
`StepFault`.

A strict form is compared with the running one up to integers that are too long to have a text:
`UnlessLong C x y` says that `x` does what `y` does, unless it stops at such an integer, which it
does not under the condition `C`.  The relation goes through sequences of steps
(`UnlessLong.bind`, `UnlessLong.mapM`), so that a strict form is compared step by step.
-/

namespace ComponentLookup

/-- How a strict step fails. -/
inductive StepFault where
  /-- A field that has to be there is absent. -/
  | absent (key : String)
  /-- A value of the wrong kind is asked for fields or for elements. -/
  | shape (e : ShapeError)
  /-- What is asked for its letters is no text at all. -/
  | noText
  /-- An integer has too many digits to be written. -/
  | longInteger
  deriving DecidableEq

/-- A read as a strict step. -/
def StepFault.ofRead {α : Type} (x : Except ShapeError α) : Except StepFault α := x.mapError .shape

@[simp] theorem StepFault.ofRead_ok {α : Type} (a : α) : ofRead (.ok a) = .ok a := rfl

theorem StepFault.ofRead_ne {α : Type} (x : Except ShapeError α) :
    ofRead x ≠ .error .longInteger := by
  cases x with
  | error e => rintro ⟨⟩
  | ok a => simp

/-- The second step stops at no long integer, and the first does what the second does, unless it
stops at one, which it does not under the condition. -/
structure UnlessLong {α : Type} (C : Prop) (x y : Except StepFault α) : Prop where
  ne_long : y ≠ .error .longInteger
  eq_or_long : x = y ∨ x = .error .longInteger ∧ ¬ C

namespace UnlessLong

variable {α β : Type} {C D : Prop} {x y : Except StepFault α} {f g : α → Except StepFault β} {a : α}

theorem refl (h : x ≠ .error .longInteger) : UnlessLong C x x := ⟨h, .inl rfl⟩

theorem ok (a : α) : UnlessLong C (.ok a) (.ok a) := refl (by simp)

theorem of_eq (h : x = .ok a) : UnlessLong C x (.ok a) := by
  rw [h]
  exact ok a

theorem read (x : Except ShapeError α) :
    UnlessLong C (StepFault.ofRead x) (StepFault.ofRead x) := refl (StepFault.ofRead_ne x)

/-- The first step stops. -/
theorem stop (hy : y ≠ .error .longInteger) (h : ¬ C) : UnlessLong C (.error .longInteger) y :=
  ⟨hy, .inr ⟨rfl, h⟩⟩

theorem eq (h : UnlessLong C x y) (hC : C) : x = y := by
  rcases h.eq_or_long with heq | ⟨-, hnot⟩
  · exact heq
  · exact absurd hC hnot

theorem mono (h : UnlessLong C x y) (hCD : D → C) : UnlessLong D x y :=
  ⟨h.ne_long, h.eq_or_long.imp id (And.imp_right (mt hCD))⟩

/-- A result is that of the second step. -/
theorem eq_of_ok (h : UnlessLong C x (.ok a)) {b : α} (hx : x = .ok b) : b = a := by
  rcases h.eq_or_long with heq | ⟨hlong, -⟩
  · exact Except.ok.inj (hx.symm.trans heq)
  · cases hx.symm.trans hlong

/-- Where the second step has a result, only a long integer is a fault. -/
theorem of_error (h : UnlessLong C x (.ok a)) {fault : StepFault} (hx : x = .error fault) :
    fault = .longInteger ∧ ¬ C := by
  rcases h.eq_or_long with heq | ⟨hlong, hnot⟩
  · cases hx.symm.trans heq
  · exact ⟨Except.error.inj (hx.symm.trans hlong), hnot⟩

/-- **Step by step.**  What is done next is compared for the results that the second step can
have. -/
theorem bind (h : UnlessLong C x y) (hnext : ∀ a, y = .ok a → UnlessLong C (f a) (g a)) :
    UnlessLong C (x >>= f) (y >>= g) := by
  have hne : y >>= g ≠ .error .longInteger := by
    cases hy : y with
    | error e => exact fun heq => h.ne_long (hy.trans (congrArg _ (Except.error.inj heq)))
    | ok a => exact (hnext a hy).ne_long
  rcases h.eq_or_long with rfl | ⟨rfl, hnot⟩
  · cases x with
    | error e => exact refl hne
    | ok a => exact hnext a rfl
  · exact stop hne hnot

/-- What the second step yields is handed on. -/
theorem bind_ok {z : Except StepFault β} (h : UnlessLong C x (.ok a))
    (hnext : UnlessLong C (f a) z) : UnlessLong C (x >>= f) z :=
  h.bind (g := fun _ => z) fun _ hb => Except.ok.inj hb ▸ hnext

theorem mapM {γ : Type} {f g : γ → Except StepFault β} {items : List γ}
    (h : ∀ item ∈ items, UnlessLong C (f item) (g item)) :
    UnlessLong C (items.mapM f) (items.mapM g) := by
  induction items with
  | nil => exact ok []
  | cons item items ih =>
    rw [List.forall_mem_cons] at h
    rw [List.mapM_cons, List.mapM_cons]
    exact h.1.bind fun first _ => (ih h.2).bind fun rest _ => ok (first :: rest)

end UnlessLong

end ComponentLookup
