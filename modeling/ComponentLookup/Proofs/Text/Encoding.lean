import ComponentLookup.Text.Encoding
import Mathlib.Tactic.SplitIfs

/-!
# Plain UTF-8

Bytes can be taken for UTF-8 in two ways: strictly, as the text of a file is, or in the encoding
that the first bytes of a JSON text ask for, where halves of surrogate pairs pass.  Both give the
same text (`Encoding.decode_detect`), if the bytes are strict UTF-8, hold no zero and begin with no
byte order mark.
-/

namespace ComponentLookup.Encoding

variable {encoding : String} {front front' : Nat → List Nat → Front} {position first n length : Nat}
  {bytes rest : List Nat} {text : List Char}

/-! ### Decoders -/

/-- A text is decoded character by character. -/
theorem decodeFrom_cons_eq_ok_iff :
    decodeFrom encoding front position (first :: rest) = .ok text ↔
      ∃ n length cs, front first rest = .point n length ∧
        decodeFrom encoding front (position + length) (rest.drop (length - 1)) = .ok cs ∧
        text = charOf n :: cs := by
  rw [decodeFrom]
  cases hfront : front first rest with
  | fault length reason => simp
  | point n length =>
    dsimp only
    constructor
    · intro h
      cases hrest : decodeFrom encoding front (position + length) (rest.drop (length - 1)) with
      | error f =>
        rw [hrest] at h
        cases h
      | ok cs =>
        rw [hrest] at h
        cases h
        exact ⟨n, length, cs, rfl, hrest, rfl⟩
    · rintro ⟨_, _, cs, hpoint, hrest, rfl⟩
      cases hpoint
      rw [hrest]
      rfl

/-- A decoder that lets more pass decodes what the other one does, in the same way. -/
theorem decodeFrom_mono (hfront : ∀ first rest n length, front first rest = .point n length →
      front' first rest = .point n length)
    (h : decodeFrom encoding front position bytes = .ok text) :
    decodeFrom encoding front' position bytes = .ok text := by
  induction position, bytes using decodeFrom.induct front generalizing text with
  | case1 =>
    rw [decodeFrom] at h ⊢
    exact h
  | case2 position first rest length reason hfault =>
    obtain ⟨n, length', cs, hpoint, -⟩ := decodeFrom_cons_eq_ok_iff.1 h
    cases hfault.symm.trans hpoint
  | case3 position first rest n length hpoint ih =>
    obtain ⟨n', length', cs, hpoint', hrest, rfl⟩ := decodeFrom_cons_eq_ok_iff.1 h
    cases hpoint.symm.trans hpoint'
    exact decodeFrom_cons_eq_ok_iff.2 ⟨n, length, cs, hfront _ _ _ _ hpoint, ih hrest, rfl⟩

/-! ### UTF-8 -/

/-- Where halves of surrogate pairs pass, everything else passes as it does otherwise. -/
theorem utf8LaxFront_of_point (h : utf8Front first rest = .point n length) :
    utf8LaxFront first rest = .point n length := by
  unfold utf8LaxFront
  split
  · split
    · rename_i b c _ hhalf
      simp only [Bool.and_eq_true, decide_eq_true_eq] at hhalf
      have hsecond : isSecond 0xED b = false := by
        rw [isSecond, Bool.and_eq_false_iff]
        exact .inr (decide_eq_false (Nat.not_le.2 hhalf.1.1))
      simp [utf8Front, hsecond] at h
    · exact h
  · exact h

theorem decode_utf8 (h : decodeUtf8 bytes = .ok text) : decode .utf8 bytes = .ok text :=
  decodeFrom_mono (fun _ _ _ _ => utf8LaxFront_of_point) h

/-- A text of ASCII characters has one byte for each. -/
theorem decodeUtf8_map_toNat (h : text.all (·.toNat < 0x80) = true) :
    decodeUtf8 (text.map Char.toNat) = .ok text := by
  have hfrom : ∀ position, decodeFrom "utf-8" utf8Front position (text.map Char.toNat) =
      .ok text := by
    induction text with
    | nil =>
      intro position
      rw [List.map_nil, decodeFrom]
    | cons c cs ih =>
      intro position
      rw [List.all_cons, Bool.and_eq_true] at h
      have hfront : utf8Front c.toNat (cs.map Char.toNat) = .point c.toNat 1 :=
        if_pos (of_decide_eq_true h.1)
      have hchar : charOf c.toNat = c := (if_pos c.valid).trans (Char.ofNat_toNat c)
      exact decodeFrom_cons_eq_ok_iff.2 ⟨_, _, cs, hfront, ih h.2 _, by rw [hchar]⟩
  exact hfrom 0

/-- A text does not begin with a byte that only continues characters, or that is in none. -/
theorem decodeUtf8_eq_error (h : 0x80 ≤ first ∧ first < 0xC2 ∨ 0xF5 ≤ first) (rest : List Nat) :
    decodeUtf8 (first :: rest) = .error ⟨"utf-8", first, 0, 1, .invalidStart⟩ := by
  have hfront : utf8Front first rest = .fault 1 .invalidStart := by
    unfold utf8Front
    split_ifs
    all_goals first | rfl | omega
  rw [decodeUtf8, decodeFrom, hfront]

/-- The characters by the number of their bytes. -/
theorem utf8Front_cases (h : utf8Front first rest = .point n length) :
    (first < 0x80 ∧ n = first) ∨
    (∃ b tail, rest = b :: tail ∧ first < 0xE0 ∧ isTail b = true ∧
      n = (first - 0xC0) * 0x40 + (b - 0x80)) ∨
    (∃ b c tail, rest = b :: c :: tail ∧ 0xE0 ≤ first ∧ first < 0xF0 ∧ isSecond first b = true ∧
      isTail c = true ∧ n = (first - 0xE0) * 0x1000 + (b - 0x80) * 0x40 + (c - 0x80)) ∨
    (∃ b c d tail, rest = b :: c :: d :: tail ∧ 0xF0 ≤ first ∧ first < 0xF5 ∧
      isSecond first b = true ∧ n =
        (first - 0xF0) * 0x40000 + (b - 0x80) * 0x1000 + (c - 0x80) * 0x40 + (d - 0x80)) := by
  unfold utf8Front at h
  split_ifs at h with h1 h2 h3 h4 h5
  · cases h
    exact .inl ⟨h1, rfl⟩
  · split at h
    · split_ifs at h with hb
      injection h with hn
      exact .inr (.inl ⟨_, _, rfl, h3, hb, hn.symm⟩)
    · cases h
  · split at h
    · cases h
    split_ifs at h with hb
    split at h
    · cases h
    split_ifs at h with hc
    injection h with hn
    exact .inr (.inr (.inl ⟨_, _, _, rfl, Nat.le_of_not_lt h3, h4, hb, hc, hn.symm⟩))
  · split at h
    · cases h
    split_ifs at h with hb
    split at h
    · cases h
    split_ifs at h with hc
    split at h
    · cases h
    split_ifs at h with hd
    injection h with hn
    exact .inr (.inr (.inr ⟨_, _, _, _, rfl, Nat.le_of_not_lt h4, h5, hb, hn.symm⟩))

/-- No character begins with a byte from 0xF5 on. -/
theorem lt_of_utf8Front (h : utf8Front first rest = .point n length) : first < 0xF5 := by
  rcases utf8Front_cases h with ⟨hfirst, -⟩ | ⟨_, _, -, hfirst, -⟩ | ⟨_, _, _, -, -, hfirst, -⟩ |
    ⟨_, _, _, _, -, -, hfirst, -⟩ <;> omega

theorem le_of_isSecond {second : Nat} (h : isSecond first second = true) :
    0x80 ≤ second ∧ second ≤ 0xBF ∧ (first = 0xF0 → 0x90 ≤ second) := by
  simp only [isSecond, Bool.and_eq_true, decide_eq_true_eq] at h
  unfold secondRange at h
  split_ifs at h <;> dsimp only at h <;> omega

/-- The byte order mark is the character of its three bytes only. -/
theorem eq_mark_of_utf8Front (h : utf8Front first rest = .point 0xFEFF length) :
    [0xEF, 0xBB, 0xBF] <+: first :: rest := by
  rcases utf8Front_cases h with ⟨hfirst, hn⟩ | ⟨b, tail, rfl, hfirst, hb, hn⟩ |
    ⟨b, c, tail, rfl, hlow, hhigh, hb, hc, hn⟩ | ⟨b, c, d, tail, rfl, hlow, hhigh, hb, hn⟩
  · omega
  · simp only [isTail, Bool.and_eq_true, decide_eq_true_eq] at hb
    omega
  · have hb' := le_of_isSecond hb
    simp only [isTail, Bool.and_eq_true, decide_eq_true_eq] at hc
    obtain ⟨rfl, rfl, rfl⟩ : first = 0xEF ∧ b = 0xBB ∧ c = 0xBF := by omega
    exact ⟨tail, rfl⟩
  · have hb' := le_of_isSecond hb
    omega

theorem toNat_ofNat (h : n.isValidChar) : (Char.ofNat n).toNat = n := by
  rw [Char.ofNat, dif_pos h]
  rfl

/-! ### Strict UTF-8 -/

variable (h : decodeUtf8 bytes = .ok text)

include h

/-- The encoding of bytes that are UTF-8 is found, unless a byte order mark or a zero byte asks for
another one. -/
theorem detect_eq_utf8 (hzero : 0 ∉ bytes) (hmark : ¬ [0xEF, 0xBB, 0xBF] <+: bytes) :
    detect bytes = .utf8 := by
  have hlt : ∀ first rest, bytes = first :: rest → first < 0xF5 := by
    rintro first rest rfl
    obtain ⟨n, length, cs, hfront, -⟩ := decodeFrom_cons_eq_ok_iff.1 h
    exact lt_of_utf8Front hfront
  unfold detect
  -- the marks of the other encodings begin with a zero or with a byte that UTF-8 does not use
  split
  · exact absurd List.mem_cons_self hzero
  · exact absurd (hlt _ _ rfl) (by decide)
  · exact absurd (hlt _ _ rfl) (by decide)
  · exact absurd (hlt _ _ rfl) (by decide)
  · exact absurd ⟨_, rfl⟩ hmark
  · rename_i a b c d _
    simp only [List.mem_cons, not_or] at hzero
    rw [if_neg (Ne.symm hzero.1), if_neg (Ne.symm hzero.2.1)]
  · rename_i a b
    simp only [List.mem_cons, not_or] at hzero
    rw [if_neg (Ne.symm hzero.1), if_neg (Ne.symm hzero.2.1)]
  · rfl

/-- The text begins with a byte order mark only if the bytes do. -/
theorem head?_ne_mark (hmark : ¬ [0xEF, 0xBB, 0xBF] <+: bytes) :
    text.head? ≠ some '\uFEFF' := by
  cases bytes with
  | nil =>
    rw [decodeUtf8, decodeFrom] at h
    cases h
    decide
  | cons first rest =>
    obtain ⟨n, length, cs, hfront, -, rfl⟩ := decodeFrom_cons_eq_ok_iff.1 h
    intro hhead
    have hn : charOf n = '\uFEFF' := Option.some.inj hhead
    have hpoint : n = 0xFEFF := by
      unfold charOf at hn
      split_ifs at hn with hvalid
      · exact (toNat_ofNat hvalid).symm.trans (congrArg Char.toNat hn)
      · exact absurd hn (by decide)
    subst hpoint
    exact hmark (eq_mark_of_utf8Front hfront)

/-- **The bytes are decoded to the same text** in the encoding that they seem to have. -/
theorem decode_detect (hzero : 0 ∉ bytes) (hmark : ¬ [0xEF, 0xBB, 0xBF] <+: bytes) :
    decode (detect bytes) bytes = .ok text := by
  rw [detect_eq_utf8 h hzero hmark]
  exact decode_utf8 h

end ComponentLookup.Encoding
