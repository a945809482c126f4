import ComponentLookup.FileTree
import ComponentLookup.Json.Reader
import ComponentLookup.Report
import ComponentLookup.Resolver
import ComponentLookup.Text.Encoding

/-!
# Resolving jobs

The entry points for build tools that hand over a program as data: as a value, as JSON text, as
bytes, or as a file.  What is wrong with the input is told in the report, and logged as an error.
Only three things are not: a path that is none, a file that is not UTF-8, and a rule that fails.
-/

namespace ComponentLookup

open Json

/-- Why a job ended without a report. -/
inductive JobError where
  /-- A rule met a value of the wrong kind. -/
  | rule (e : ShapeError)
  /-- The input was to be text and is none. -/
  | notText
  /-- The path of the file holds a null character. -/
  | nullInPath
  /-- The file is not UTF-8. -/
  | undecodable (f : DecodeFault)
  deriving DecidableEq

/-- A job that has run: its report, the messages it logged, and the registry afterwards. -/
structure Job where
  report : Except JobError Report
  log : List Log.Record
  registry : Registry

/-- What a job works on. -/
inductive JobInput where
  | tree (v : Json)
  | text (v : Json)
  | bytes (bs : List Nat)
  | file (path : String) (files : FileTree)

namespace Engine

/-- A job that ends with an error message. -/
def reject (registry : Registry) (message : String) : Job :=
  { report := .ok (Report.failed message)
    log := [{ level := .error, message }]
    registry }

/-- What stands in place of the type tag of a program. -/
def foundType : Json → String
  | .obj fields => ((Fields.get? "type" fields).getD .null).display
  | v => v.kindName

/-- The message about a value that is no program. -/
def notAProgramMessage (v : Json) : String :=
  "Expected an ESTree 'Program' node, got '" ++ foundType v ++ "'."

/-- The message about the number of resolved checks. -/
def summary (stats : Stats) : String :=
  "Resolved " ++ toString (stats.get "checks_rewritten") ++ " component reference(s)."

/-- Resolves the components of a program. -/
def run (config : Config) (registry : Registry) (tree : Json) : Job :=
  if tree.isKind "Program" then
    let applied := applyRules config (Tracer.empty config.trace) registry tree
    match applied.failure with
    | some e =>
      { report := .error (.rule e), log := applied.context.log, registry := applied.registry }
    | none =>
      let ctx := applied.context.report .info (summary applied.context.stats)
      { report := .ok { tree := applied.tree, stats := ctx.stats, trace := ctx.tracer.toJson }
        log := ctx.log
        registry := applied.registry }
  else reject registry (notAProgramMessage tree)

/-- The message about JSON that cannot be read. -/
def invalidJsonMessage (reason : String) : String := "Invalid ESTree JSON: " ++ reason

/-- Resolves the components of the program that a text holds. -/
def runText (config : Config) (registry : Registry) (text : String) : Job :=
  match Json.read text with
  | .ok tree => run config registry tree
  | .error e => reject registry (invalidJsonMessage e.message)

/-- Resolves the components of the program that encoded bytes hold. -/
def runBytes (config : Config) (registry : Registry) (bytes : List Nat) : Job :=
  match Encoding.decode (Encoding.detect bytes) bytes with
  | .error f => reject registry (invalidJsonMessage f.message)
  | .ok text =>
    match Json.readChars text with
    | .ok tree => run config registry tree
    | .error e => reject registry (invalidJsonMessage e.message)

/-- The message about a file that cannot be opened. -/
def cannotReadMessage (path : String) (e : FileError) : String :=
  "Cannot read " ++ path ++ ": " ++ e.message path

/-- Resolves the components of the program that a file holds. -/
def runFile (config : Config) (registry : Registry) (files : FileTree) (path : String) : Job :=
  if isPathText path then
    match files.open? path with
    | .error e => reject registry (cannotReadMessage (plainPath path) e)
    | .ok bytes =>
      match Encoding.decodeUtf8 bytes with
      | .error f => { report := .error (.undecodable f), log := [], registry }
      | .ok text => runText config registry (String.ofList (normalizeNewlines text))
  else { report := .error .nullInPath, log := [], registry }

/-- Runs a job on its input. -/
def runInput (config : Config) (registry : Registry) : JobInput → Job
  | .tree v => run config registry v
  | .text (.str s) => runText config registry s
  | .text _ => { report := .error .notText, log := [], registry }
  | .bytes bs => runBytes config registry bs
  | .file path files => runFile config registry files path

end Engine

end ComponentLookup
