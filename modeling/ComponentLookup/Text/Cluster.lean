import ComponentLookup.Text.Cells

/-!
# Clusters

What a terminal shows as one sign may be several characters.  A mark without a column of its own
belongs to the character before it, a joiner makes one sign of the characters on both sides, and a
variation selector can make a narrow character wide.

`width` is the number of columns of a text.  `clusters` cuts a text into its signs, and `chop` and
`crop`, which fit a text into columns, cut it only between them.
-/

namespace ComponentLookup.Text

/-- The zero-width joiner. -/
def joiner : Char := '\u200d'

/-- The selector of the variation that is shown as a pictograph. -/
def selector : Char := '\ufe0f'

/-- The columns that a selector adds to the character before it. -/
def widening (base : Option Char) : Nat := if base.any widens then 1 else 0

/-! ### Columns -/

/-- The columns of a text behind a character that a selector can still make wide.  A character
behind a joiner has none. -/
def widthFrom (base : Option Char) (joined : Bool) : List Char → Nat
  | [] => 0
  | c :: rest =>
    if joined then widthFrom base false rest
    else if c = joiner then widthFrom base true rest
    else if c = selector then widening base + widthFrom none false rest
    else if cells c = 0 then widthFrom base false rest
    else cells c + widthFrom (some c) false rest

/-- The number of columns of a text. -/
def width (text : List Char) : Nat := widthFrom none false text

/-! ### Clusters -/

/-- Characters that are shown as one sign, and the columns that it takes. -/
structure Cluster where
  chars : List Char
  columns : Nat

/-- The cluster whose characters are given backwards, unless it is empty. -/
def Cluster.ofReversed? (chars : List Char) (columns : Nat) : List Cluster :=
  if chars.isEmpty then [] else [⟨chars.reverse, columns⟩]

/-- The clusters of a text behind the beginning of a cluster.  At the beginning of a text there is
nothing for a joiner to join. -/
def clustersFrom (chars : List Char) (columns : Nat) (base : Option Char) (joined : Bool) :
    List Char → List Cluster
  | [] => Cluster.ofReversed? chars columns
  | c :: rest =>
    if joined then clustersFrom (c :: chars) columns base false rest
    else if c = joiner then clustersFrom (c :: chars) columns base (!chars.isEmpty) rest
    else if c = selector then
      clustersFrom (c :: chars) (columns + widening base) (base.filter (!widens ·)) false rest
    else if cells c = 0 then clustersFrom (c :: chars) columns base false rest
    else
      Cluster.ofReversed? chars columns ++ clustersFrom [c] (cells c) (some c) false rest

/-- The clusters of a text. -/
def clusters (text : List Char) : List Cluster := clustersFrom [] 0 none false text

/-- The clusters of a text hold its characters in order. -/
theorem flatMap_clustersFrom (chars : List Char) (columns : Nat) (base : Option Char)
    (joined : Bool) (text : List Char) :
    (clustersFrom chars columns base joined text).flatMap Cluster.chars =
      chars.reverse ++ text := by
  have flat (cs : List Char) (n : Nat) :
      (Cluster.ofReversed? cs n).flatMap Cluster.chars = cs.reverse := by
    unfold Cluster.ofReversed?
    split <;> simp_all
  fun_induction clustersFrom chars columns base joined text <;>
    simp_all [List.flatMap_append]

theorem flatMap_clusters (text : List Char) : (clusters text).flatMap Cluster.chars = text := by
  simp [clusters, flatMap_clustersFrom]

/-! ### Fitting a text into columns -/

/-- Cuts clusters into lines, behind a line that takes some columns.  A sign that is wider than a
line has one for itself. -/
def chopFrom (columns : Nat) (line : List Char) (used : Nat) : List Cluster → List (List Char)
  | [] => if used = 0 then [] else [line]
  | sign :: rest =>
    if columns < used + sign.columns then
      line :: chopFrom columns sign.chars sign.columns rest
    else chopFrom columns (line ++ sign.chars) (used + sign.columns) rest

/-- Cuts a text into lines of a number of columns. -/
def chop (columns : Nat) (text : List Char) : List (List Char) :=
  chopFrom columns [] 0 (clusters text)

/-- The clusters that fit into a number of columns.  A blank stands for half of a wide sign. -/
def cropClusters : Nat → List Cluster → List Char
  | 0, _ => []
  | _ + 1, [] => []
  | columns + 1, sign :: rest =>
    if columns + 1 < sign.columns then [' ']
    else sign.chars ++ cropClusters (columns + 1 - sign.columns) rest

/-- The beginning of a text that fits into a number of columns. -/
def crop (columns : Nat) (text : List Char) : List Char := cropClusters columns (clusters text)

end ComponentLookup.Text
