import ComponentLookup.Proofs.Config.Section
import ComponentLookup.Proofs.Config.Settings
import ComponentLookup.Proofs.Text.Encoding
import Mathlib.Data.List.Induction

/-!
# Loading a configuration

The search for a project file goes up from a directory and ends at the first file that it finds
(`Config.Nearest`); what stands farther up does not matter, and neither do directories of that name.

* `Config.load_eq_ofFields_overlay` : **a loaded configuration is made of the section of the nearest
  project file with the explicit values laid over it**; two projects whose sections agree on the
  fields that are not given explicitly load alike.
* `Config.load_eq_error_iff` : without a configuration or violations the loading ends exactly where
  the nearest project file is faulty, as one is that is not UTF-8 (`Config.not_load_returns`).
-/

namespace ComponentLookup

variable {files : FileTree} {path : FilePath}

/-! ### Ways up -/

theorem ancestors_concat (path : FilePath) (name : String) :
    ancestors (path ++ [name]) = (path ++ [name]) :: ancestors path := by
  unfold ancestors
  rw [List.range_succ_eq_map, List.length_append, List.length_singleton, List.map_cons,
    List.map_map, List.take_of_length_le (by simp)]
  refine congrArg _ (List.map_congr_left fun n _ => ?_)
  simp only [Function.comp_apply, Nat.succ_eq_add_one, Nat.add_sub_add_right]
  exact List.take_append_of_le_length (Nat.sub_le _ _)

/-- A way on which no name is too long can be looked up, whether anything is there or not. -/
theorem FileTree.follow_ne_nameTooLong (files : FileTree) {names : FilePath}
    (h : ∀ name ∈ names, name.utf8ByteSize ≤ maxNameBytes) (spot : Spot) :
    files.follow spot names ≠ .error .nameTooLong := by
  induction names generalizing spot with
  | nil => cases spot <;> exact nofun
  | cons name rest ih =>
    have hname := Nat.not_lt.2 (h name List.mem_cons_self)
    have hrest := ih fun name hmem => h name (List.mem_cons_of_mem _ hmem)
    cases spot with
    | outside =>
      unfold follow
      split_ifs
      · exact hrest _
      · exact nofun
    | inside path =>
      unfold follow
      dsimp only
      split_ifs
      all_goals first | exact hrest _ | exact nofun

namespace Config

/-! ### The nearest project file -/

/-- The bytes of the project file nearest to a spot, if one stands on the way up. -/
inductive Nearest (files : FileTree) : Spot → Option (List Nat) → Prop
  | outside : Nearest files .outside none
  | absent {directory : FilePath} :
      (∀ dir, dir <+: directory → files.file? (dir ++ ["pyproject.toml"]) = none) →
      Nearest files (.inside directory) none
  | present {directory dir : FilePath} {bytes : List Nat} : dir <+: directory →
      files.file? (dir ++ ["pyproject.toml"]) = some bytes →
      (∀ dir', dir' <+: directory → dir.length < dir'.length →
        files.file? (dir' ++ ["pyproject.toml"]) = none) →
      Nearest files (.inside directory) (some bytes)

variable {directory : FilePath} {found : Option (List Nat)} {bytes : List Nat}

theorem nearestProjectFile?_concat (directory : FilePath) (name : String) :
    nearestProjectFile? files (directory ++ [name]) =
      (files.file? (directory ++ [name] ++ ["pyproject.toml"])).or
        (nearestProjectFile? files directory) := by
  unfold nearestProjectFile?
  rw [ancestors_concat, List.findSome?_cons, projectFileName]
  cases files.file? (directory ++ [name] ++ ["pyproject.toml"]) <;> rfl

theorem nearestProjectFile?_eq_none_iff : nearestProjectFile? files directory = none ↔
    ∀ dir, dir <+: directory → files.file? (dir ++ ["pyproject.toml"]) = none := by
  unfold nearestProjectFile?
  simp only [List.findSome?_eq_none_iff, mem_ancestors, projectFileName]

/-- The first project file on the way up is the nearest one. -/
theorem nearestProjectFile?_eq_some_iff : nearestProjectFile? files directory = some bytes ↔
    ∃ dir, dir <+: directory ∧ files.file? (dir ++ ["pyproject.toml"]) = some bytes ∧
      ∀ dir', dir' <+: directory → dir.length < dir'.length →
        files.file? (dir' ++ ["pyproject.toml"]) = none := by
  induction directory using List.reverseRecOn with
  | nil =>
    have hroot : nearestProjectFile? files [] = files.file? ["pyproject.toml"] := by
      unfold nearestProjectFile?
      rw [ancestors_nil, List.findSome?_singleton]
      rfl
    simp [hroot, List.prefix_nil]
  | append_singleton directory name ih =>
    rw [nearestProjectFile?_concat, Option.or_eq_some_iff, ih]
    constructor
    · rintro (hfile | ⟨hnone, dir, hdir, hfile, hbelow⟩)
      · exact ⟨_, List.prefix_rfl, hfile, fun dir' h hlt => absurd h.length_le (Nat.not_le.2 hlt)⟩
      · refine ⟨dir, hdir.trans (List.prefix_append _ _), hfile, fun dir' h hlt => ?_⟩
        rcases List.prefix_concat_iff.1 h with rfl | h
        · exact hnone
        · exact hbelow dir' h hlt
    · rintro ⟨dir, hdir, hfile, hbelow⟩
      rcases List.prefix_concat_iff.1 hdir with rfl | hdir
      · exact .inl hfile
      · refine .inr ⟨hbelow _ List.prefix_rfl ?_, dir, hdir, hfile, fun dir' h hlt =>
          hbelow dir' (h.trans (List.prefix_append _ _)) hlt⟩
        have := hdir.length_le
        simp
        omega

theorem nearest_inside_iff :
    Nearest files (.inside directory) found ↔ nearestProjectFile? files directory = found := by
  constructor
  · rintro (_ | hnone | ⟨hdir, hfile, hnone⟩)
    · exact nearestProjectFile?_eq_none_iff.2 hnone
    · exact nearestProjectFile?_eq_some_iff.2 ⟨_, hdir, hfile, hnone⟩
  · rintro rfl
    cases h : nearestProjectFile? files directory with
    | none => exact .absent (nearestProjectFile?_eq_none_iff.1 h)
    | some bytes =>
      obtain ⟨dir, hdir, hfile, hnone⟩ := nearestProjectFile?_eq_some_iff.1 h
      exact .present hdir hfile hnone

/-! ### Loading -/

/-- The search begins at a spot: the path text is one, leads there, and could be that of a
directory. -/
structure BeginsAt (present : FilePath) (search : Option String) (start : Spot) : Prop where
  isPath : isPathText (search.getD "") = true
  searchStart_eq : searchStart present (search.getD "") = start
  names_le : ∀ directory, start = .inside directory →
    ∀ name ∈ directory, name.utf8ByteSize ≤ maxNameBytes

/-- The section that counts for a spot: that of the nearest project file, and without a file an
empty one. -/
inductive SectionFor (files : FileTree) (start : Spot) : Toml.Entries → Prop
  | noFile : Nearest files start none → SectionFor files start []
  | file {bytes : List Nat} {entries : Toml.Entries} : Nearest files start (some bytes) →
      HasSection bytes entries → SectionFor files start entries

variable {present : FilePath} {search : Option String} {start : Spot} {entries : Toml.Entries}
  {e : ProjectError}

/-- What a project file has to say, if there is one. -/
def settingsIn : Option (List Nat) → Except ProjectError Settings
  | none => .ok []
  | some bytes => projectSettings bytes

theorem nearestSettings_eq (hnames : ∀ name ∈ directory, name.utf8ByteSize ≤ maxNameBytes)
    (hnearest : Nearest files (.inside directory) found) :
    nearestSettings files directory = settingsIn found := by
  rw [nearestSettings, nearest_inside_iff.1 hnearest, if_neg]
  · cases found <;> rfl
  · have hfollow := files.follow_ne_nameTooLong hnames (.inside [])
    split
    · rename_i hlong
      exact absurd hlong hfollow
    · exact Bool.false_ne_true

/-- Settings are loaded from the nearest project file. -/
theorem load_eq (hstart : BeginsAt present search start) (hnearest : Nearest files start found)
    (overrides : Fields) :
    load files present search overrides =
      (settingsIn found).map fun settings => ofFields (settings ++ overriding overrides) := by
  have hsettings : load files present search overrides = (do
      let settings ← settingsIn found
      return ofFields (settings ++ overriding overrides)) := by
    unfold load
    dsimp only
    rw [if_pos hstart.isPath, hstart.searchStart_eq]
    cases start with
    | outside => cases hnearest; rfl
    | inside directory =>
      dsimp only
      rw [nearestSettings_eq (hstart.names_le directory rfl) hnearest]
      rfl
  rw [hsettings]
  cases settingsIn found <;> rfl

theorem load_of_sectionFor (hstart : BeginsAt present search start)
    (hsection : SectionFor files start entries) (overrides : Fields) :
    load files present search overrides =
      .ok (ofFields (overlay (known (tableSettings entries)) (overriding overrides))) := by
  rw [← ofFields_append]
  cases hsection with
  | noFile hnearest => exact load_eq hstart hnearest overrides
  | file hnearest hbytes =>
    rw [load_eq hstart hnearest, settingsIn, projectSettings_of_hasSection hbytes]
    rfl

/-- **A loaded configuration is made of the section of the nearest project file, with the explicit
values laid over it.**  It is the same for any other project whose section agrees in what is not
given explicitly and has a field: what stands farther up, under other names or behind an explicit
value does not count. -/
theorem load_eq_ofFields_overlay (hstart : BeginsAt present search start)
    (hsection : SectionFor files start entries) (overrides : Fields) :
    load files present search overrides =
        .ok (ofFields (overlay (known (tableSettings entries)) (overriding overrides))) ∧
      ∀ (files' : FileTree) (present' : FilePath) (search' : Option String) (start' : Spot)
        (entries' : Toml.Entries), BeginsAt present' search' start' →
        SectionFor files' start' entries' →
        (∀ key ∈ keys, given (overriding overrides) key = none →
          given (tableSettings entries') key = given (tableSettings entries) key) →
        load files' present' search' overrides = load files present search overrides := by
  refine ⟨load_of_sectionFor hstart hsection overrides,
    fun files' present' search' start' entries' hstart' hsection' hagree => ?_⟩
  rw [load_of_sectionFor hstart' hsection', load_of_sectionFor hstart hsection,
    ofFields_overlay_congr hagree]

/-- **Loading fails exactly where the nearest project file is faulty.** -/
theorem load_eq_error_iff (hstart : BeginsAt present search start)
    (hnearest : Nearest files start (some bytes)) (overrides : Fields) :
    load files present search overrides = .error e ↔ SectionFault bytes e := by
  rw [load_eq hstart hnearest, settingsIn, ← projectSettings_eq_error_iff]
  cases projectSettings bytes with
  | ok settings => exact iff_of_false nofun nofun
  | error e' =>
    exact ⟨fun h => congrArg _ (Except.error.inj h), fun h => congrArg _ (Except.error.inj h)⟩

/-- **What the nearest project file makes of a configuration** without explicit values: its section
decides, an empty one if the file is malformed, and all that can be wrong besides are values that
the section gives for fields. -/
theorem load_nearest (hstart : BeginsAt present search start)
    (hnearest : Nearest files start (some bytes)) :
    let loaded := load files present search []
    ((∃ checked, loaded = .ok checked) ↔ ∃ entries, HasSection bytes entries) ∧
      (∀ e, loaded = .error e ↔ SectionFault bytes e) ∧
      (∀ text, Encoding.decodeUtf8 bytes = .ok text → Toml.read text = .error .malformed →
        loaded = .ok (.ok .default)) ∧
      ∀ entries, HasSection bytes entries →
        loaded = .ok (ofFields (tableSettings entries)) ∧
          ∀ violations, ofFields (tableSettings entries) = .error violations →
            ∀ violation ∈ violations, IsGiven (tableSettings entries) violation := by
  intro loaded
  have hloaded : ∀ entries, HasSection bytes entries →
      loaded = .ok (ofFields (tableSettings entries)) := fun entries hsection => by
    change load files present search [] = _
    have hnothing : overriding [] = [] := rfl
    rw [load_of_sectionFor hstart (.file hnearest hsection), ← ofFields_append, hnothing,
      List.append_nil]
  refine ⟨⟨fun ⟨checked, h⟩ => ?_, fun ⟨entries, h⟩ => ⟨_, hloaded entries h⟩⟩,
    fun e => load_eq_error_iff hstart hnearest [], fun text hdecode hread => ?_,
    fun entries h => ⟨hloaded entries h, within_ofFields _⟩⟩
  · obtain hsection | ⟨e, hfault⟩ := hasSection_or_sectionFault bytes
    · exact hsection
    · cases ((load_eq_error_iff hstart hnearest []).2 hfault).symm.trans h
  · exact hloaded [] (.malformed hdecode hread)

end Config

namespace Sample

open Config

/-- A project file with a wrong value, a name that is no field, and a name with a margin. -/
def pageFile : List Char :=
  "[tool.mdx_vue_resolve]\ntrace = 5\nplugin = 1\nrender_entry_name = \" Page\"\n".toList

/-- The entries of its section. -/
def pageEntries : Toml.Entries :=
  [("trace", .integer 5), ("plugin", .integer 1), ("render_entry_name", .string " Page")]

/-- The file in a directory, with a file farther up that is not even a text, and a directory farther
down that has the name of a project file. -/
def pages : FileTree where
  files := [(["pyproject.toml"], [0xFF]), (["site", "pyproject.toml"], pageFile.map Char.toNat)]
  directories := [["site", "docs", "pyproject.toml"]]

theorem beginsAt_docs : BeginsAt ["site"] (some "docs") (.inside ["site", "docs"]) where
  isPath := by decide
  searchStart_eq := by rfl
  names_le := by rintro _ ⟨⟩; decide

theorem nearest_pages :
    Nearest pages (.inside ["site", "docs"]) (some (pageFile.map Char.toNat)) :=
  nearest_inside_iff.2 (by rfl)

/-- The page file was read.  Equality of documents is not decidable, so that they are matched. -/
def isPageDocument : Except Toml.Fault Toml.Entries → Bool
  | .ok [("tool", .table .implied [("mdx_vue_resolve", .table .header
      [("trace", .integer 5), ("plugin", .integer 1), ("render_entry_name", .string " Page")])])] =>
    true
  | _ => false

theorem eq_of_isPageDocument {result : Except Toml.Fault Toml.Entries}
    (h : isPageDocument result = true) : result =
      .ok [("tool", .table .implied [("mdx_vue_resolve", .table .header pageEntries)])] := by
  unfold isPageDocument at h
  split at h
  · rfl
  · cases h

theorem hasSection_pageFile : HasSection (pageFile.map Char.toNat) pageEntries := by
  have hdecode : Encoding.decodeUtf8 (pageFile.map Char.toNat) = .ok pageFile :=
    Encoding.decodeUtf8_map_toNat (by decide)
  have hpage : isPageDocument (Toml.read pageFile) = true := by decide +kernel
  have hread := eq_of_isPageDocument hpage
  exact .document hdecode hread (.present rfl) (.present rfl)

end Sample

namespace Config

open Sample

theorem load_eq_ofFields_overlay_pages :
    BeginsAt ["site"] (some "docs") (.inside ["site", "docs"]) ∧
      SectionFor pages (.inside ["site", "docs"]) pageEntries ∧
      load pages ["site"] (some "docs") [("trace", .bool false), ("render_body_name", .null)] =
        .ok (.ok { renderEntryName := "Page", trace := false }) := by
  have hsection := SectionFor.file nearest_pages hasSection_pageFile
  obtain ⟨hload, -⟩ := load_eq_ofFields_overlay beginsAt_docs hsection
    [("trace", .bool false), ("render_body_name", .null)]
  exact ⟨beginsAt_docs, hsection, hload.trans (congrArg _ rfl)⟩

theorem load_nearest_pages :
    BeginsAt ["site"] (some "docs") (.inside ["site", "docs"]) ∧
      Nearest pages (.inside ["site", "docs"]) (some (pageFile.map Char.toNat)) ∧
      HasSection (pageFile.map Char.toNat) pageEntries ∧
      load pages ["site"] (some "docs") [] =
        .ok (.error [{ place := [.field "trace"], cause := .boolParsing }]) := by
  obtain ⟨-, -, -, hloaded⟩ := load_nearest beginsAt_docs nearest_pages
  obtain ⟨hload, -⟩ := hloaded pageEntries hasSection_pageFile
  exact ⟨beginsAt_docs, nearest_pages, hasSection_pageFile, hload.trans (congrArg _ rfl)⟩

/-- A project file that is not UTF-8 has no configuration. -/
theorem not_load_returns :
    ¬ ∀ bytes : List Nat, ∃ checked, load { pages with files := [(["pyproject.toml"], bytes)] }
      ["site"] (some "docs") [] = .ok checked := by
  intro hclaim
  obtain ⟨checked, hchecked⟩ := hclaim [0xFF]
  have hfault : SectionFault [0xFF] (.undecodable ⟨"utf-8", 0xFF, 0, 1, .invalidStart⟩) :=
    .undecodable (Encoding.decodeUtf8_eq_error (by decide) [])
  have hnearest : Nearest { pages with files := [(["pyproject.toml"], [0xFF])] }
      (.inside ["site", "docs"]) (some [0xFF]) := nearest_inside_iff.2 rfl
  cases ((load_eq_error_iff beginsAt_docs hnearest []).2 hfault).symm.trans hchecked

end Config

end ComponentLookup
