import ComponentLookup.Config.Checked
import ComponentLookup.FileTree
import ComponentLookup.Text.Encoding
import ComponentLookup.Toml.Reader

/-!
# Configurations from the project file

A project pins its names in a section of its project file.  The nearest project file counts, looked
for in a directory and then in each of its ancestors; a file that is malformed counts as empty, and
so does one without the section.  Explicit values override those of the file, unless they are null.
-/

namespace ComponentLookup

namespace Config

/-- The name of a project file. -/
def projectFileName : String := "pyproject.toml"

/-- The names of the section and of the table around it. -/
def sectionPath : String × String := ("tool", "mdx_vue_resolve")

/-- Why the settings of a project cannot be told. -/
inductive ProjectError where
  /-- The path where the search begins holds a null character. -/
  | nullInPath
  /-- A name on the way to where the search begins is too long. -/
  | nameTooLong
  /-- The section, or what should hold it, is no table. -/
  | notATable
  /-- The project file is not UTF-8. -/
  | undecodable (f : DecodeFault)
  /-- The project file has an integer of this many digits. -/
  | integerTooLong (digits : Nat)
  deriving DecidableEq

/-- The bytes of the project file nearest to a directory. -/
def nearestProjectFile? (files : FileTree) (directory : FilePath) : Option (List Nat) :=
  (ancestors directory).findSome? fun dir => files.file? (dir ++ [projectFileName])

/-- The leaf that a value of a project file is. -/
def scalarOf : Toml → Scalar
  | .string s => .text s
  | .integer n => .whole n
  | .float x => .real x
  | .boolean b => .truth b
  | _ => .other

/-- The entries of a table, where one may be missing. -/
def tableEntries : Option Toml → Except ProjectError Toml.Entries
  | none => .ok []
  | some (.table _ entries) => .ok entries
  | some _ => .error .notATable

/-- The settings in the section of a project file. -/
def sectionSettings (document : Toml.Entries) : Except ProjectError Settings := do
  let (outer, inner) := sectionPath
  let tool ← tableEntries (document.get? outer)
  let entries ← tableEntries (Toml.Entries.get? inner tool)
  .ok (entries.map fun (key, v) => (key, scalarOf v))

/-- The settings in a project file. -/
def projectSettings (bytes : List Nat) : Except ProjectError Settings :=
  match Encoding.decodeUtf8 bytes with
  | .error f => .error (.undecodable f)
  | .ok text =>
    match Toml.read text with
    | .error .malformed => .ok []
    | .error (.integerTooLong digits) => .error (.integerTooLong digits)
    | .ok document => sectionSettings document

/-- The explicit values that are not null. -/
def overriding (overrides : Fields) : Settings :=
  settingsOf (overrides.filter fun field => !field.2.isNull)

/-- The directory where the search begins: a path taken from the present directory. -/
def searchStart (present : FilePath) (search : String) : Spot :=
  normalize (pathStart present search) (pathNames search)

/-- The settings in the project file nearest to a directory.  It does not matter whether the
directory exists, as long as its name can be looked up. -/
def nearestSettings (files : FileTree) (directory : FilePath) : Except ProjectError Settings :=
  if files.follow (.inside []) directory matches .error .nameTooLong then .error .nameTooLong
  else
    match nearestProjectFile? files directory with
    | none => .ok []
    | some bytes => projectSettings bytes

/-- The configuration of a project, or what is wrong with it.  Without a path where the search
begins, it begins in the present directory. -/
def load (files : FileTree) (present : FilePath) (search : Option String) (overrides : Fields) :
    Except ProjectError (Checked Config) := do
  let path := search.getD ""
  let settings ←
    if isPathText path then
      match searchStart present path with
      | .outside => .ok []
      | .inside directory => nearestSettings files directory
    else .error .nullInPath
  .ok (ofFields (settings ++ overriding overrides))

end Config

end ComponentLookup
