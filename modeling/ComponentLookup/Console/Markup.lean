import ComponentLookup.Console.Literal
import ComponentLookup.Console.Pictograph
import ComponentLookup.Console.Style

/-!
# Console markup

A message may carry tags in brackets: `[bold]` opens a style, `[/bold]` closes the innermost style
of that name, and `[/]` closes the innermost style.  `Markup.plainText` gives the text that is left
without the tags.

A bracket opens a tag only before a small letter or one of `#`, `/` and `@`; any other bracket is
text.  A backslash in front makes text of a tag, and two backslashes stand for one.  Behind an
equals sign a tag has an argument.  A tag that begins with `@` names a handler, whose argument is
looked at when the tag is closed.

In the text between tags, names of pictographs between colons are replaced.

Markup belongs to the console and not to the programs that are resolved.  This is the reader that
runs; what a console makes of a job is stated for every reader (`Output.showJobWith`).
-/

namespace ComponentLookup.Console.Markup

/-- A piece of a message: text, or what stands between the brackets of a tag. -/
inductive Piece where
  | text (cs : List Char)
  | tag (cs : List Char)

/-- The character may stand first in a tag. -/
def startsTag (c : Char) : Bool := c.isLower || c == '#' || c == '/' || c == '@'

/-- The character may stand inside a tag. -/
def isInner (c : Char) : Bool := c != '[' && c != ']'

/-- The tag behind an opening bracket, with the text behind its closing bracket. -/
def tag? : List Char → Option (List Char × List Char)
  | [] => none
  | c :: rest =>
    if startsTag c then
      match rest.dropWhile isInner with
      | ']' :: behind => some (c :: rest.takeWhile isInner, behind)
      | _ => none
    else none

theorem length_of_tag? {text cs rest : List Char} (h : tag? text = some (cs, rest)) :
    rest.length < text.length := by
  unfold tag? at h
  split at h
  · simp at h
  · next c tail =>
    split at h
    · split at h
      · next behind hd =>
        cases h
        have := (List.dropWhile_suffix isInner (l := tail)).length_le
        rw [hd] at this
        simp only [List.length_cons] at this ⊢
        omega
      · simp at h
    · simp at h

/-- Text, where a backslash before an opening bracket is dropped. -/
def unescape : List Char → List Char
  | '\\' :: '[' :: rest => '[' :: unescape rest
  | c :: rest => c :: unescape rest
  | [] => []

/-- A piece of text, unless there is none. -/
def textPiece (cs : List Char) : List Piece := if cs.isEmpty then [] else [.text (unescape cs)]

/-- The pieces of a message, behind text whose pieces are not yet cut off and a run of backslashes.
Both are given backwards or as a count. -/
def pieces (before : List Char) (slashes : Nat) (text : List Char) : List Piece :=
  match text with
  | [] => textPiece (before.reverse ++ List.replicate slashes '\\')
  | '\\' :: rest => pieces before (slashes + 1) rest
  | '[' :: rest =>
    match _h : tag? rest with
    | some (cs, behind) =>
      textPiece before.reverse ++ textPiece (List.replicate (slashes / 2) '\\') ++
        (if slashes % 2 = 1 then .text ('[' :: cs ++ [']']) else .tag cs) ::
          pieces [] 0 behind
    | none => pieces ('[' :: List.replicate slashes '\\' ++ before) 0 rest
  | c :: rest => pieces (c :: List.replicate slashes '\\' ++ before) 0 rest
termination_by text.length
decreasing_by
  all_goals simp only [List.length_cons]
  all_goals first
    | omega
    | exact Nat.lt_succ_of_lt (length_of_tag? _h)

/-- Why a message cannot be shown. -/
inductive Fault where
  /-- A closing tag names no open style. -/
  | notOpen (tag : String)
  /-- A closing tag without a name stands where no style is open. -/
  | nothingOpen
  /-- The argument of a handler is no literal. -/
  | badArgument
  /-- A colour is given by components, and one of them is no number. -/
  | brokenComponent
  deriving DecidableEq

/-- A tag that is open: the style or handler that it names, and its argument. -/
structure OpenTag where
  name : String
  argument : Option (List Char)

/-- A tag with the inside of its brackets. -/
def OpenTag.of (name : String) (cs : List Char) : OpenTag :=
  { name
    argument := match cs.dropWhile (· != '=') with
      | _ :: argument => some argument
      | [] => none }

/-- A tag can be closed, unless it names a handler whose argument is no literal. -/
def OpenTag.canClose (tag : OpenTag) : Bool :=
  tag.name.toList.head? != some '@' ||
    match tag.argument with
    | none | some [] => true
    | some argument => Literal.isHandler argument

/-- The name of the style that a tag names. -/
def styleName (cs : List Char) : Except Fault String :=
  (canonicalName cs).mapError fun _ => .brokenComponent

/-- The tags that are open behind a tag; those before it are given, the innermost first. -/
def openBehind (tags : List OpenTag) (cs : List Char) : Except Fault (List OpenTag) := do
  match cs.takeWhile (· != '=') with
  | '/' :: closing =>
    let (closed, others) ←
      if closing.all Text.isBlank then
        match tags with
        | [] => .error .nothingOpen
        | tag :: tags => .ok (tag, tags)
      else
        let name ← styleName closing
        match tags.find? (·.name = name) with
        | some tag => .ok (tag, tags.eraseP (·.name = name))
        | none => .error (.notOpen (String.ofList cs))
    if closed.canClose then .ok others else .error .badArgument
  | opening => .ok (OpenTag.of (← styleName opening) cs :: tags)

/-- The text of pieces behind open tags. -/
def textOf (tags : List OpenTag) : List Piece → Except Fault (List Char)
  | [] => .ok []
  | .text cs :: rest => do .ok (replaceNames cs ++ (← textOf tags rest))
  | .tag cs :: rest => do textOf (← openBehind tags cs) rest

/-- The character moves the cursor without showing anything, or rings the bell. -/
def isControl (c : Char) : Bool := [7, 8, 11, 12, 13].contains c.toNat

/-- The text of a message, without tags and control characters. -/
def plainText (message : String) : Except Fault (List Char) :=
  (textOf [] (pieces [] 0 message.toList)).map (·.filter (!isControl ·))

end ComponentLookup.Console.Markup
