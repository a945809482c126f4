import ComponentLookup.Config.ProjectFile

/-!
# The section of a project file

What the bytes of a project file say about the settings.  A file has a section if it is malformed,
which counts as an empty section, or if it is a document with a table `tool` and in it a table
`mdx_vue_resolve`, where a missing table counts as an empty one (`Config.HasSection`).  All other
files are faulty in one of four ways (`Config.SectionFault`).

`Config.projectSettings_of_hasSection` and `Config.projectSettings_eq_error_iff` : **the settings
are those of the section**, and there are none exactly where the file is faulty.
-/

namespace ComponentLookup

/-- The value is a table of its own, and not one of several under a repeated header. -/
def Toml.isTable : Toml → Bool
  | .table _ _ => true
  | _ => false

namespace Config

/-- The settings that the entries of a table are. -/
def tableSettings (entries : Toml.Entries) : Settings :=
  entries.map fun (key, v) => (key, scalarOf v)

/-- The entries of the table under a name, where a missing table is empty. -/
inductive TableAt (outer : Toml.Entries) (name : String) : Toml.Entries → Prop
  | missing : outer.get? name = none → TableAt outer name []
  | present {opening : Toml.Opening} {entries : Toml.Entries} :
      outer.get? name = some (.table opening entries) → TableAt outer name entries

/-- The entries of the section in the bytes of a project file. -/
inductive HasSection (bytes : List Nat) : Toml.Entries → Prop
  | malformed {text : List Char} : Encoding.decodeUtf8 bytes = .ok text →
      Toml.read text = .error .malformed → HasSection bytes []
  | document {text : List Char} {document tool entries : Toml.Entries} :
      Encoding.decodeUtf8 bytes = .ok text → Toml.read text = .ok document →
      TableAt document "tool" tool → TableAt tool "mdx_vue_resolve" entries →
      HasSection bytes entries

/-- Why the bytes of a project file have no section. -/
inductive SectionFault (bytes : List Nat) : ProjectError → Prop
  | undecodable {fault : DecodeFault} : Encoding.decodeUtf8 bytes = .error fault →
      SectionFault bytes (.undecodable fault)
  | integerTooLong {text : List Char} {digits : Nat} : Encoding.decodeUtf8 bytes = .ok text →
      Toml.read text = .error (.integerTooLong digits) →
      SectionFault bytes (.integerTooLong digits)
  | tool {text : List Char} {document : Toml.Entries} {v : Toml} :
      Encoding.decodeUtf8 bytes = .ok text → Toml.read text = .ok document →
      document.get? "tool" = some v → v.isTable = false → SectionFault bytes .notATable
  | innerTable {text : List Char} {document tool : Toml.Entries} {v : Toml} :
      Encoding.decodeUtf8 bytes = .ok text → Toml.read text = .ok document →
      TableAt document "tool" tool → tool.get? "mdx_vue_resolve" = some v → v.isTable = false →
      SectionFault bytes .notATable

variable {bytes : List Nat} {text : List Char} {document outer entries : Toml.Entries}
  {name : String} {e : ProjectError}

/-! ### Tables -/

theorem tableEntries_of_tableAt (h : TableAt outer name entries) :
    tableEntries (outer.get? name) = .ok entries := by
  cases h with
  | missing hget => rw [hget]; rfl
  | present hget => rw [hget]; rfl

theorem tableEntries_of_not_isTable {v : Toml} (hget : outer.get? name = some v)
    (h : v.isTable = false) : tableEntries (outer.get? name) = .error .notATable := by
  rw [hget]
  cases v with
  | table => cases h
  | _ => rfl

/-- Under a name there is a table, if not an empty one that is missing, or something else. -/
theorem tableAt_or_not_isTable (outer : Toml.Entries) (name : String) :
    (∃ entries, TableAt outer name entries) ∨
      ∃ v, outer.get? name = some v ∧ v.isTable = false := by
  cases hget : outer.get? name with
  | none => exact .inl ⟨[], .missing hget⟩
  | some v =>
    cases v with
    | table opening entries => exact .inl ⟨entries, .present hget⟩
    | _ => exact .inr ⟨_, rfl, rfl⟩

/-! ### Project files -/

theorem projectSettings_of_document (hdecode : Encoding.decodeUtf8 bytes = .ok text)
    (hread : Toml.read text = .ok document) :
    projectSettings bytes = (do
      let tool ← tableEntries (document.get? "tool")
      let entries ← tableEntries (tool.get? "mdx_vue_resolve")
      return tableSettings entries) := by
  rw [projectSettings, hdecode]
  dsimp only
  rw [hread]
  rfl

/-- **The settings of a project file are those of its section.** -/
theorem projectSettings_of_hasSection (h : HasSection bytes entries) :
    projectSettings bytes = .ok (tableSettings entries) := by
  cases h with
  | malformed hdecode hread =>
    rw [projectSettings, hdecode]
    dsimp only
    rw [hread]
    rfl
  | document hdecode hread htool hinner =>
    rw [projectSettings_of_document hdecode hread, tableEntries_of_tableAt htool]
    dsimp only [bind, Except.bind]
    rw [tableEntries_of_tableAt hinner]
    rfl

theorem projectSettings_of_sectionFault (h : SectionFault bytes e) :
    projectSettings bytes = .error e := by
  cases h with
  | undecodable hdecode => rw [projectSettings, hdecode]
  | integerTooLong hdecode hread =>
    rw [projectSettings, hdecode]
    dsimp only
    rw [hread]
  | tool hdecode hread hget hnot =>
    rw [projectSettings_of_document hdecode hread, tableEntries_of_not_isTable hget hnot]
    rfl
  | innerTable hdecode hread htool hget hnot =>
    rw [projectSettings_of_document hdecode hread, tableEntries_of_tableAt htool]
    dsimp only [bind, Except.bind]
    rw [tableEntries_of_not_isTable hget hnot]

/-- A project file has a section or is faulty. -/
theorem hasSection_or_sectionFault (bytes : List Nat) :
    (∃ entries, HasSection bytes entries) ∨ ∃ e, SectionFault bytes e := by
  cases hdecode : Encoding.decodeUtf8 bytes with
  | error fault => exact .inr ⟨_, .undecodable hdecode⟩
  | ok text =>
    cases hread : Toml.read text with
    | error fault =>
      cases fault with
      | malformed => exact .inl ⟨[], .malformed hdecode hread⟩
      | integerTooLong digits => exact .inr ⟨_, .integerTooLong hdecode hread⟩
    | ok document =>
      obtain ⟨tool, htool⟩ | ⟨v, hget, hnot⟩ := tableAt_or_not_isTable document "tool"
      · obtain ⟨entries, hinner⟩ | ⟨v, hget, hnot⟩ :=
          tableAt_or_not_isTable tool "mdx_vue_resolve"
        · exact .inl ⟨entries, .document hdecode hread htool hinner⟩
        · exact .inr ⟨_, .innerTable hdecode hread htool hget hnot⟩
      · exact .inr ⟨_, .tool hdecode hread hget hnot⟩

/-- **A project file has no settings exactly if it is faulty.** -/
theorem projectSettings_eq_error_iff : projectSettings bytes = .error e ↔ SectionFault bytes e := by
  refine ⟨fun h => ?_, projectSettings_of_sectionFault⟩
  obtain ⟨entries, hsection⟩ | ⟨e', hfault⟩ := hasSection_or_sectionFault bytes
  · cases (projectSettings_of_hasSection hsection).symm.trans h
  · obtain rfl : e' = e :=
      Except.error.inj ((projectSettings_of_sectionFault hfault).symm.trans h)
    exact hfault

end Config

end ComponentLookup
