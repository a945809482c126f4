import ComponentLookup.Text.Quoted
import ComponentLookup.Text.Split

/-!
# Files

A snapshot of a directory tree: the files with their bytes, and the directories that are there
besides those that hold a file.  Everything outside the tree is taken to hold no files.

There are two readings of a path with `..` in it.  Opening a file follows the path step by step
through directories that exist (`FileTree.open?`), while the search for a configuration first
cancels each `..` against the name before it (`normalize`).
-/

namespace ComponentLookup

/-- The names on the way from the root of the tree. -/
abbrev FilePath := List String

/-- A directory tree. -/
structure FileTree where
  files : List (FilePath × List Nat)
  directories : List FilePath

/-- Why a file cannot be opened. -/
inductive FileError where
  | missing
  | notADirectory
  | isADirectory
  | nameTooLong
  deriving DecidableEq

/-- The number of an error. -/
def FileError.number : FileError → Nat
  | .missing => 2
  | .notADirectory => 20
  | .isADirectory => 21
  | .nameTooLong => 36

/-- The wording of an error. -/
def FileError.text : FileError → String
  | .missing => "No such file or directory"
  | .notADirectory => "Not a directory"
  | .isADirectory => "Is a directory"
  | .nameTooLong => "File name too long"

/-- The full wording of an error about a path. -/
def FileError.message (e : FileError) (path : String) : String :=
  "[Errno " ++ toString e.number ++ "] " ++ e.text ++ ": " ++ Text.quote path

/-! ### Path texts -/

/-- The names in a path; empty ones and `.` do not count. -/
def pathNames (path : String) : FilePath :=
  ((Text.splitOn '/' path.toList).filter fun part => part != [] && part != ['.']).map String.ofList

/-- The slashes at the beginning of a path.  Two of them mean something of their own. -/
def leadingSlashes (path : String) : String :=
  match (path.toList.takeWhile (· = '/')).length with
  | 0 => ""
  | 2 => "//"
  | _ => "/"

/-- The plain spelling of a path: one slash between names, and no `.` among them. -/
def plainPath (path : String) : String :=
  let plain := leadingSlashes path ++ "/".intercalate (pathNames path)
  if plain = "" then "." else plain

/-- A path cannot hold a null character. -/
def isPathText (path : String) : Bool := !path.toList.contains '\x00'

/-- The number of bytes of a name. -/
def maxNameBytes : Nat := 255

/-- The number of bytes of a path. -/
def maxPathBytes : Nat := 4095

/-! ### Directories -/

/-- A way through directories that may lead out of the tree. -/
inductive Spot where
  | inside (path : FilePath)
  | outside

/-- Where a path begins that is taken from a directory. -/
def pathStart (present : FilePath) (path : String) : Spot :=
  if leadingSlashes path = "" then .inside present else .outside

namespace FileTree

variable (tree : FileTree)

/-- The bytes of the file at a path. -/
def file? (path : FilePath) : Option (List Nat) :=
  (tree.files.find? (·.1 = path)).map (·.2)

/-- The path is the root, a directory, or leads to something in the tree. -/
def isDirectory (path : FilePath) : Bool :=
  path.isEmpty || (tree.directories.any fun d => path.isPrefixOf d) ||
    tree.files.any fun f => path.isPrefixOf f.1 && path != f.1

/-- Follows names from a directory on, step by step. -/
def follow : Spot → FilePath → Except FileError Spot
  | spot, [] => .ok spot
  | .outside, name :: rest =>
    if name = ".." then follow .outside rest
    else .error (if maxNameBytes < name.utf8ByteSize then .nameTooLong else .missing)
  | .inside path, name :: rest =>
    if tree.isDirectory path then
      if name = ".." then
        follow (if path.isEmpty then .outside else .inside path.dropLast) rest
      else if maxNameBytes < name.utf8ByteSize then .error .nameTooLong
      else
        let path := path ++ [name]
        if tree.isDirectory path || (tree.file? path).isSome then follow (.inside path) rest
        else .error .missing
    else .error .notADirectory

/-- The bytes of the file that a path leads to. -/
def open? (path : String) : Except FileError (List Nat) :=
  if maxPathBytes < (plainPath path).utf8ByteSize then .error .nameTooLong
  else do
    match ← tree.follow (pathStart [] path) (pathNames path) with
    | .outside => .error .isADirectory
    | .inside path =>
      match tree.file? path with
      | some bytes => .ok bytes
      | none => .error .isADirectory

end FileTree

/-! ### Ancestors -/

/-- Appends names to a way through directories, where `..` cancels the name before it. -/
def normalize : Spot → FilePath → Spot
  | spot, [] => spot
  | .outside, _ :: rest => normalize .outside rest
  | .inside path, name :: rest =>
    if name = ".." then
      normalize (if path.isEmpty then .outside else .inside path.dropLast) rest
    else normalize (.inside (path ++ [name])) rest

/-- A path and its ancestors, from the path up to the root of the tree. -/
def ancestors (path : FilePath) : List FilePath :=
  (List.range (path.length + 1)).map fun n => path.take (path.length - n)

@[simp] theorem ancestors_nil : ancestors [] = [[]] := rfl

theorem mem_ancestors {path dir : FilePath} : dir ∈ ancestors path ↔ dir <+: path := by
  simp only [ancestors, List.mem_map, List.mem_range]
  constructor
  · rintro ⟨n, -, rfl⟩
    exact List.take_prefix _ _
  · intro h
    refine ⟨path.length - dir.length, by omega, ?_⟩
    have := h.length_le
    rw [show path.length - (path.length - dir.length) = dir.length by omega]
    exact (List.prefix_iff_eq_take.1 h).symm

end ComponentLookup
