import ComponentLookup.Console.Markup
import Mathlib.Data.List.Basic

/-!
# Messages that cannot be shown

A message is cut into pieces behind a buffer and a count of backslashes, and the tags among the
pieces are followed one after another.  Here the tags are told from the text alone (`Markup.tags`):

* `Markup.mem_tags_iff` : a tag stands wherever a bracket opens one behind an even number of
  backslashes.  No tag holds a bracket, so what stands before or behind does not matter.
* `Markup.plainText_eq_error_iff` : **a message cannot be shown if one of its tags cannot be
  followed** behind those before it (`Markup.Refused`).
* `Markup.exists_refused_of_closing` : this is so as soon as more tags close than open.
-/

namespace ComponentLookup.Console.Markup

variable {text before behind suffix cs : List Char} {slashes : Nat} {fault : Fault}

/-! ### Tags of a text -/

/-- The text can stand between the brackets of a tag. -/
def IsTag (cs : List Char) : Prop := cs.head?.any startsTag = true ∧ cs.all isInner = true

theorem isInner_of_startsTag {c : Char} (h : startsTag c = true) : isInner c = true := by
  rw [isInner, Bool.and_eq_true, bne_iff_ne, bne_iff_ne]
  constructor <;> (rintro rfl; revert h; decide)

theorem tag?_eq_some_iff :
    tag? text = some (cs, behind) ↔ IsTag cs ∧ text = cs ++ ']' :: behind := by
  constructor
  · intro h
    unfold tag? at h
    split at h
    · cases h
    · next c tail =>
      split_ifs at h with hc
      split at h
      · next rest hdrop =>
        cases h
        refine ⟨⟨hc, ?_⟩, ?_⟩
        · rw [List.all_cons, isInner_of_startsTag hc, Bool.true_and]
          exact List.all_takeWhile
        · rw [List.cons_append, ← hdrop, List.takeWhile_append_dropWhile]
      · cases h
  · rintro ⟨⟨hstart, hinner⟩, rfl⟩
    obtain ⟨c, tail, rfl⟩ : ∃ c tail, cs = c :: tail := by
      cases cs with
      | nil => cases hstart
      | cons c tail => exact ⟨c, tail, rfl⟩
    have hc : startsTag c = true := hstart
    have htail : ∀ d ∈ tail, isInner d = true := fun d hd =>
      List.all_eq_true.1 hinner d (List.mem_cons_of_mem c hd)
    have hclose : isInner ']' = false := rfl
    rw [List.cons_append, tag?, if_pos hc, List.dropWhile_append_of_pos htail,
      List.takeWhile_append_of_pos htail]
    simp [hclose]

/-- The backslashes at the end of a text, behind a run of them. -/
def slashesBehind (slashes : Nat) (text : List Char) : Nat :=
  text.foldl (fun n c => if c = '\\' then n + 1 else 0) slashes

/-- The tags of a text behind a run of backslashes.  Each bracket is looked at by itself. -/
def tagsBehind (slashes : Nat) : List Char → List (List Char)
  | [] => []
  | '\\' :: rest => tagsBehind (slashes + 1) rest
  | '[' :: rest =>
    (if slashes % 2 = 1 then [] else ((tag? rest).map Prod.fst).toList) ++ tagsBehind 0 rest
  | _ :: rest => tagsBehind 0 rest

/-- The tags of a text, in order. -/
def tags (text : List Char) : List (List Char) := tagsBehind 0 text

theorem tagsBehind_bracket : tagsBehind slashes ('[' :: text) =
    (if slashes % 2 = 1 then [] else ((tag? text).map Prod.fst).toList) ++ tagsBehind 0 text := by
  rw [tagsBehind]

theorem tagsBehind_cons {c : Char} (h : c ≠ '[') :
    tagsBehind slashes (c :: text) = tagsBehind (slashesBehind slashes [c]) text := by
  by_cases hc : c = '\\'
  · subst hc
    rfl
  · rw [slashesBehind, List.foldl_cons, if_neg hc, tagsBehind]
    · rfl
    · exact hc
    · exact h

/-- Text without an opening bracket has no tags. -/
theorem tagsBehind_append (h : '[' ∉ before) :
    tagsBehind slashes (before ++ text) = tagsBehind (slashesBehind slashes before) text := by
  induction before generalizing slashes with
  | nil => rfl
  | cons c before ih =>
    rw [List.mem_cons, not_or] at h
    rw [List.cons_append, tagsBehind_cons (Ne.symm h.1), ih h.2]
    rfl

theorem tags_eq_nil (h : '[' ∉ text) : tags text = [] := by
  rw [tags, ← List.append_nil text, tagsBehind_append h]
  rfl

/-- No tag begins inside a tag. -/
theorem tagsBehind_tag (h : IsTag cs) : tagsBehind slashes (cs ++ ']' :: text) = tags text := by
  have hopen : '[' ∉ cs := fun hmem => Bool.false_ne_true (List.all_eq_true.1 h.2 '[' hmem)
  rw [tagsBehind_append hopen, tagsBehind_cons (by decide)]
  rfl

/-- The first character of a text is the bracket of a tag, or the tag stands behind it. -/
theorem exists_tag_cons_iff {c : Char} :
    (∃ before behind, c :: text = before ++ '[' :: (cs ++ ']' :: behind) ∧
      slashesBehind slashes before % 2 = 0) ↔
    (c = '[' ∧ slashes % 2 = 0 ∧ ∃ behind, text = cs ++ ']' :: behind) ∨
      ∃ before behind, text = before ++ '[' :: (cs ++ ']' :: behind) ∧
        slashesBehind (slashesBehind slashes [c]) before % 2 = 0 := by
  constructor
  · rintro ⟨before, behind, heq, heven⟩
    cases before with
    | nil =>
      obtain ⟨rfl, rfl⟩ := List.cons.inj heq
      exact .inl ⟨rfl, heven, behind, rfl⟩
    | cons d before =>
      obtain ⟨rfl, rfl⟩ := List.cons.inj heq
      exact .inr ⟨before, behind, rfl, heven⟩
  · rintro (⟨rfl, heven, behind, rfl⟩ | ⟨before, behind, rfl, heven⟩)
    · exact ⟨[], behind, rfl, heven⟩
    · exact ⟨c :: before, behind, rfl, heven⟩

theorem mem_tagsBehind_iff : cs ∈ tagsBehind slashes text ↔
    IsTag cs ∧ ∃ before behind, text = before ++ '[' :: (cs ++ ']' :: behind) ∧
      slashesBehind slashes before % 2 = 0 := by
  induction text generalizing slashes with
  | nil => simp [tagsBehind]
  | cons c text ih =>
    rw [exists_tag_cons_iff]
    by_cases hc : c = '['
    · subst hc
      have hhead : cs ∈ (if slashes % 2 = 1 then [] else ((tag? text).map Prod.fst).toList) ↔
          IsTag cs ∧ slashes % 2 = 0 ∧ ∃ behind, text = cs ++ ']' :: behind := by
        split_ifs with hodd
        · simp [hodd]
        · have heven : slashes % 2 = 0 := by omega
          simp [heven, tag?_eq_some_iff]
      rw [tagsBehind_bracket, List.mem_append, hhead, ih]
      simp only [true_and, and_or_left]
      rfl
    · rw [tagsBehind_cons hc, ih]
      simp only [hc, false_and, false_or]

/-- **A tag stands wherever a bracket opens one**, unless a backslash makes text of it. -/
theorem mem_tags_iff : cs ∈ tags text ↔
    IsTag cs ∧ ∃ before behind, text = before ++ '[' :: (cs ++ ']' :: behind) ∧
      slashesBehind 0 before % 2 = 0 :=
  mem_tagsBehind_iff

example : tags "[b] \\[i] [1] [/b]".toList = [['b'], ['/', 'b']] := by decide

/-- What holds no bracket finishes no tag. -/
theorem tag?_append (h : suffix.all isInner = true) :
    (tag? (text ++ suffix)).map Prod.fst = (tag? text).map Prod.fst := by
  have hclose : ']' ∉ suffix := fun hmem => Bool.false_ne_true (List.all_eq_true.1 h ']' hmem)
  ext cs
  simp only [Option.map_eq_some_iff, Prod.exists, exists_and_right, exists_eq_right,
    tag?_eq_some_iff]
  constructor
  · rintro ⟨behind, htag, heq⟩
    -- A bracket that closes the tag cannot stand in the suffix, so it stands in the text.
    obtain ⟨cs', rfl, hbehind⟩ | ⟨rest, rfl, hrest⟩ := List.append_eq_append_iff.1 heq
    · exact absurd (hbehind ▸ List.mem_append_right _ List.mem_cons_self) hclose
    · cases rest with
      | nil =>
        have hmem : ']' ∈ [] ++ suffix := hrest ▸ List.mem_cons_self
        exact absurd hmem hclose
      | cons d rest =>
        obtain ⟨rfl, -⟩ := List.cons.inj hrest
        exact ⟨rest, htag, rfl⟩
  · rintro ⟨behind, htag, rfl⟩
    exact ⟨behind ++ suffix, htag, by simp⟩

theorem tagsBehind_append_inner (h : suffix.all isInner = true) :
    tagsBehind slashes (text ++ suffix) = tagsBehind slashes text := by
  have hopen : '[' ∉ suffix := fun hmem => Bool.false_ne_true (List.all_eq_true.1 h '[' hmem)
  induction text generalizing slashes with
  | nil =>
    rw [List.nil_append, ← List.append_nil suffix, tagsBehind_append hopen]
    rfl
  | cons c text ih =>
    rw [List.cons_append]
    by_cases hc : c = '['
    · subst hc
      rw [tagsBehind_bracket, tagsBehind_bracket, tag?_append h, ih]
    · rw [tagsBehind_cons hc, tagsBehind_cons hc, ih]

/-! ### The tags among the pieces -/

/-- The tags among pieces. -/
def tagsOf (ps : List Piece) : List (List Char) :=
  ps.filterMap fun
    | .tag cs => some cs
    | .text _ => none

theorem tagsOf_append (ps qs : List Piece) : tagsOf (ps ++ qs) = tagsOf ps ++ tagsOf qs :=
  List.filterMap_append

theorem tagsOf_textPiece (cs : List Char) : tagsOf (textPiece cs) = [] := by
  unfold textPiece
  split <;> rfl

/-- The tags among the pieces of a text are those of the text. -/
theorem tagsOf_pieces (before : List Char) (slashes : Nat) (text : List Char) :
    tagsOf (pieces before slashes text) = tagsBehind slashes text := by
  fun_induction pieces before slashes text with
  | case1 before slashes => exact tagsOf_textPiece _
  | case2 before slashes rest ih => exact ih
  | case3 before slashes rest cs behind htag ih =>
    -- Reading on inside the tag finds nothing, for the tag holds no bracket.
    obtain ⟨hcs, rfl⟩ := tag?_eq_some_iff.1 htag
    rw [tagsBehind_bracket, htag, tagsBehind_tag hcs, tagsOf_append, tagsOf_append,
      tagsOf_textPiece, tagsOf_textPiece, List.nil_append, List.nil_append, tags, ← ih]
    split <;> rfl
  | case4 before slashes rest htag ih =>
    rw [ih, tagsBehind_bracket, htag]
    simp
  | case5 before slashes c rest hslash hopen ih =>
    rw [ih, tagsBehind_cons hopen, slashesBehind, List.foldl_cons, if_neg hslash]
    rfl

/-! ### Following tags -/

section Following

variable {opened opened' : List OpenTag} {all : List (List Char)}

theorem textOf_eq_error_iff {ps : List Piece} :
    textOf opened ps = .error fault ↔ (tagsOf ps).foldlM openBehind opened = .error fault := by
  induction ps generalizing opened with
  | nil => simp [textOf, tagsOf, pure, Except.pure]
  | cons p ps ih =>
    cases p with
    | text cs =>
      change _ ↔ (tagsOf ps).foldlM openBehind opened = .error fault
      rw [← ih, textOf]
      cases textOf opened ps <;> simp [bind, Except.bind]
    | tag cs =>
      change _ ↔ (cs :: tagsOf ps).foldlM openBehind opened = .error fault
      rw [textOf, List.foldlM_cons]
      cases openBehind opened cs with
      | error e => simp [bind, Except.bind]
      | ok next => exact ih

/-- A tag of the text cannot be followed behind those that stand before it. -/
def Refused (text : List Char) (fault : Fault) : Prop :=
  ∃ before cs behind opened, tags text = before ++ cs :: behind ∧
    before.foldlM openBehind [] = .ok opened ∧ openBehind opened cs = .error fault

/-- Tags are followed up to the first that cannot be followed. -/
theorem foldlM_openBehind_eq_error_iff :
    all.foldlM openBehind opened = .error fault ↔
      ∃ before cs behind opened', all = before ++ cs :: behind ∧
        before.foldlM openBehind opened = .ok opened' ∧ openBehind opened' cs = .error fault := by
  constructor
  · intro h
    induction all generalizing opened with
    | nil => cases h
    | cons cs all ih =>
      rw [List.foldlM_cons] at h
      cases hcs : openBehind opened cs with
      | error e =>
        rw [hcs] at h
        cases h
        exact ⟨[], cs, all, opened, rfl, rfl, hcs⟩
      | ok next =>
        -- The first tag is followed, so the fault is that of a later one.
        rw [hcs] at h
        obtain ⟨before, cs', behind, opened', rfl, hbefore, hfault⟩ := ih h
        refine ⟨cs :: before, cs', behind, opened', rfl, ?_, hfault⟩
        rw [List.foldlM_cons, hcs]
        exact hbefore
  · rintro ⟨before, cs, behind, opened', rfl, hbefore, hfault⟩
    rw [List.foldlM_append, hbefore]
    change (cs :: behind).foldlM openBehind opened' = _
    rw [List.foldlM_cons, hfault]
    rfl

/-- **A message cannot be shown if one of its tags cannot be followed.** -/
theorem plainText_eq_error_iff {message : String} :
    plainText message = .error fault ↔ Refused message.toList fault := by
  have htext : plainText message = .error fault ↔
      textOf [] (pieces [] 0 message.toList) = .error fault := by
    unfold plainText
    cases textOf [] (pieces [] 0 message.toList) <;> simp [Except.map]
  rw [htext, textOf_eq_error_iff, tagsOf_pieces, foldlM_openBehind_eq_error_iff]
  rfl

theorem refused_congr {text' : List Char} (h : tags text = tags text') :
    Refused text fault ↔ Refused text' fault := by
  rw [Refused, Refused, h]

/-- Text without an opening bracket is shown. -/
theorem not_refused (h : '[' ∉ text) : ¬ Refused text fault := by
  rintro ⟨before, cs, behind, opened, htags, -⟩
  rw [tags_eq_nil h] at htags
  simp at htags

/-! ### Tags that close -/

/-- The tag closes another. -/
def isClosing (cs : List Char) : Bool := cs.head? == some '/'

theorem isClosing_iff : isClosing cs = true ↔
    ∃ closing, cs.takeWhile (· != '=') = '/' :: closing := by
  rw [isClosing, beq_iff_eq]
  cases cs with
  | nil => simp
  | cons c rest =>
    rw [List.head?_cons, Option.some.injEq, List.takeWhile_cons]
    constructor
    · rintro rfl
      exact ⟨_, rfl⟩
    · rintro ⟨closing, htake⟩
      split_ifs at htake
      exact (List.cons.inj htake).1

/-- The open tag that a closing tag closes, and the others. -/
def closedBy (opened : List OpenTag) (cs closing : List Char) :
    Except Fault (OpenTag × List OpenTag) :=
  if closing.all Text.isBlank then
    match opened with
    | [] => .error .nothingOpen
    | tag :: others => .ok (tag, others)
  else do
    let name ← styleName closing
    match opened.find? (·.name = name) with
    | some tag => .ok (tag, opened.eraseP (·.name = name))
    | none => .error (.notOpen (String.ofList cs))

theorem openBehind_of_closing {closing : List Char}
    (h : cs.takeWhile (· != '=') = '/' :: closing) :
    openBehind opened cs = closedBy opened cs closing >>= fun (closed, others) =>
      if closed.canClose then .ok others else .error .badArgument := by
  unfold openBehind closedBy
  split
  · next closing' htake =>
    obtain rfl : closing' = closing := (List.cons.inj (htake.symm.trans h)).2
    dsimp only
    split_ifs
    · cases opened <;> rfl
    · cases styleName closing' with
      | error e => rfl
      | ok name =>
        dsimp only [bind, Except.bind]
        cases opened.find? fun tag => decide (tag.name = name) <;> rfl
  · next hopening => exact absurd h (hopening closing)

theorem openBehind_of_opening (h : isClosing cs = false) :
    openBehind opened cs = styleName (cs.takeWhile (· != '=')) >>= fun name =>
      .ok (OpenTag.of name cs :: opened) := by
  unfold openBehind
  split
  · next closing htake => exact absurd (isClosing_iff.2 ⟨closing, htake⟩) (Bool.eq_false_iff.1 h)
  · rfl

theorem exists_ok_of_bind {α β : Type} {x : Except Fault α} {f : α → Except Fault β} {b : β}
    (h : x >>= f = .ok b) : ∃ a, x = .ok a ∧ f a = .ok b := by
  cases x with
  | error e => cases h
  | ok a => exact ⟨a, rfl, h⟩

theorem length_of_closedBy {closing : List Char} {closed : OpenTag} {others : List OpenTag}
    (h : closedBy opened cs closing = .ok (closed, others)) :
    others.length + 1 = opened.length := by
  unfold closedBy at h
  split_ifs at h
  · cases opened with
    | nil => cases h
    | cons tag opened =>
      cases h
      rfl
  · obtain ⟨name, -, hfound⟩ := exists_ok_of_bind h
    split at hfound
    · next hfind =>
      cases hfound
      have hmem := List.mem_of_find?_eq_some hfind
      rw [List.length_eraseP_of_mem hmem (List.find?_some hfind),
        Nat.sub_add_cancel (List.length_pos_of_mem hmem)]
    · cases hfound

/-- A tag that is followed opens one tag, or closes one. -/
theorem length_of_openBehind (h : openBehind opened cs = .ok opened') :
    opened'.length + [cs].countP isClosing = opened.length + [cs].countP (!isClosing ·) := by
  cases hcs : isClosing cs with
  | true =>
    suffices opened'.length + 1 = opened.length by simpa [hcs] using this
    obtain ⟨closing, htake⟩ := isClosing_iff.1 hcs
    rw [openBehind_of_closing htake] at h
    obtain ⟨⟨closed, others⟩, hclosed, hothers⟩ := exists_ok_of_bind h
    dsimp only at hothers
    split_ifs at hothers
    cases hothers
    exact length_of_closedBy hclosed
  | false =>
    suffices opened'.length = opened.length + 1 by simpa [hcs] using this
    rw [openBehind_of_opening hcs] at h
    obtain ⟨name, -, hname⟩ := exists_ok_of_bind h
    cases hname
    rfl

/-- Of the tags that are followed, those stay open that are not closed. -/
theorem length_of_foldlM_openBehind (h : all.foldlM openBehind opened = .ok opened') :
    opened'.length + all.countP isClosing = opened.length + all.countP (!isClosing ·) := by
  induction all generalizing opened with
  | nil =>
    cases h
    rfl
  | cons cs all ih =>
    rw [List.foldlM_cons] at h
    obtain ⟨next, hcs, hall⟩ := exists_ok_of_bind h
    have hstep := length_of_openBehind hcs
    have hrest := ih hall
    rw [← List.singleton_append, List.countP_append, List.countP_append]
    omega

/-- A message in which more tags close than open, up to some point, cannot be shown. -/
theorem exists_refused_of_closing {before behind : List (List Char)}
    (htags : tags text = before ++ behind)
    (hcount : before.countP (!isClosing ·) < before.countP isClosing) :
    ∃ fault, Refused text fault := by
  cases hall : (tags text).foldlM openBehind [] with
  | error fault => exact ⟨fault, foldlM_openBehind_eq_error_iff.1 hall⟩
  | ok opened =>
    rw [htags, List.foldlM_append] at hall
    obtain ⟨opened', hbefore, -⟩ := exists_ok_of_bind hall
    have hlength := length_of_foldlM_openBehind hbefore
    rw [List.length_nil] at hlength
    omega

end Following

end ComponentLookup.Console.Markup
