import ComponentLookup.Proofs.Engine.Outcome
import ComponentLookup.Proofs.Json.LineEnds
import ComponentLookup.Proofs.Text.Encoding

/-!
# Jobs on files and on bytes

A file is read as strict UTF-8 with its line ends made line feeds, and bytes are read in the
encoding that they seem to have.

`Engine.runFile_runBytes` : **a job on a file does what the job on its bytes does**, if they are
UTF-8 without a byte order mark and without zero bytes.  Only the message about JSON that cannot be
read may differ, as it tells the place of the fault (`Engine.runFile_cases`).
-/

namespace ComponentLookup.Engine

variable {config : Config} {registry : Registry} {files : FileTree} {path : String}
  {bytes : List Nat} {text : List Char} {fault : DecodeFault} {tree : Json}
  {report : Report}

/-! ### One stage after the other -/

theorem runFile_of_not_isPathText (h : ¬ isPathText path = true) :
    runFile config registry files path =
      { report := .error .nullInPath, log := [], registry } := by
  rw [runFile, if_neg h]

theorem runFile_of_open_error {e : FileError} (hpath : isPathText path = true)
    (hopen : files.open? path = .error e) :
    runFile config registry files path =
      reject registry (cannotReadMessage (plainPath path) e) := by
  rw [runFile, if_pos hpath, hopen]

theorem runFile_of_undecodable (hpath : isPathText path = true)
    (hopen : files.open? path = .ok bytes) (hdecode : Encoding.decodeUtf8 bytes = .error fault) :
    runFile config registry files path =
      { report := .error (.undecodable fault), log := [], registry } := by
  rw [runFile, if_pos hpath, hopen]
  dsimp only
  rw [hdecode]

theorem runFile_of_text (hpath : isPathText path = true) (hopen : files.open? path = .ok bytes)
    (htext : Encoding.decodeUtf8 bytes = .ok text) :
    runFile config registry files path =
      runText config registry (String.ofList (normalizeNewlines text)) := by
  rw [runFile, if_pos hpath, hopen]
  dsimp only
  rw [htext]

/-! ### Files and bytes -/

/-- Two errors of the same kind: the text is no JSON, or it holds something else than a program. -/
def SameKind (e e' : String) : Prop :=
  (∃ reason reason', e = invalidJsonMessage reason ∧ e' = invalidJsonMessage reason') ∨
    ∃ v, e = notAProgramMessage v ∧ e' = notAProgramMessage v

variable (config registry) in
/-- The job on a file and the job on its bytes run on the same value, or find no value both. -/
theorem runFile_cases (hpath : isPathText path = true) (hopen : files.open? path = .ok bytes)
    (htext : Encoding.decodeUtf8 bytes = .ok text) (hzero : 0 ∉ bytes)
    (hmark : ¬ [0xEF, 0xBB, 0xBF] <+: bytes) :
    (∃ tree, runFile config registry files path = run config registry tree ∧
      runBytes config registry bytes = run config registry tree) ∨
    ∃ reason reason', runFile config registry files path =
        reject registry (invalidJsonMessage reason) ∧
      runBytes config registry bytes = reject registry (invalidJsonMessage reason') := by
  have hsame := Json.toOption_read_normalizeNewlines (Encoding.head?_ne_mark htext hmark)
  rw [runFile_of_text hpath hopen htext, runText, runBytes,
    Encoding.decode_detect htext hzero hmark]
  dsimp only
  obtain ⟨tree, hread', hread⟩ | ⟨e', e, hread', hread⟩ := Json.ok_or_error_of_toOption_eq hsame
  · rw [hread', hread]
    exact .inl ⟨tree, rfl, rfl⟩
  · rw [hread', hread]
    exact .inr ⟨_, _, rfl, rfl⟩

/-- A job on a value fails with a report only if the value is no program. -/
theorem errors_of_run (h : (run config registry tree).report = .ok report)
    (hfailed : report.success = false) : report.errors = [notAProgramMessage tree] := by
  by_cases hp : tree.isKind "Program" = true
  · rw [run, if_pos hp] at h
    dsimp only at h
    split at h
    · cases h
    · cases h
      cases hfailed
  · rw [run_other hp] at h
    cases h
    rfl

/-- **A job on a file does what the job on its bytes does.** -/
theorem runFile_runBytes (config : Config) (registry : Registry)
    (hpath : isPathText path = true) (hopen : files.open? path = .ok bytes)
    (htext : Encoding.decodeUtf8 bytes = .ok text) (hzero : 0 ∉ bytes)
    (hmark : ¬ [0xEF, 0xBB, 0xBF] <+: bytes) :
    let job := runFile config registry files path
    let job' := runBytes config registry bytes
    (∀ report, job.report = .ok report → ∃ report', job'.report = .ok report' ∧
      report'.success = report.success ∧ report'.tree = report.tree ∧
      report'.stats = report.stats ∧ report'.trace = report.trace ∧
      (report.success = false → ∃ e e', report.errors = [e] ∧ report'.errors = [e'] ∧
        SameKind e e')) ∧
    (∀ failure, job.report = .error failure → job'.report = .error failure) ∧
    (registry.OnlyBuiltins → ∃ report, job.report = .ok report) := by
  intro job job'
  rcases runFile_cases config registry hpath hopen htext hzero hmark with
    ⟨tree, hjob, hjob'⟩ | ⟨reason, reason', hjob, hjob'⟩
  · have heq : job' = job := hjob'.trans hjob.symm
    refine ⟨fun report h => ?_, fun failure h => ?_, fun hbuiltins => ?_⟩
    · refine ⟨report, heq ▸ h, rfl, rfl, rfl, rfl, fun hfailed => ?_⟩
      have herrors := errors_of_run ((congrArg Job.report hjob).symm.trans h) hfailed
      exact ⟨_, _, herrors, herrors, .inr ⟨tree, rfl, rfl⟩⟩
    · exact heq ▸ h
    · obtain ⟨report, hreport, -⟩ := report_run config hbuiltins tree
      exact ⟨report, (congrArg Job.report hjob).trans hreport⟩
  · have hreport : job.report = .ok (Report.failed (invalidJsonMessage reason)) :=
      congrArg Job.report hjob
    have hreport' : job'.report = .ok (Report.failed (invalidJsonMessage reason')) :=
      congrArg Job.report hjob'
    refine ⟨fun report h => ?_, fun failure h => ?_, fun _ => ⟨_, hreport⟩⟩
    · obtain rfl := Except.ok.inj (hreport.symm.trans h)
      exact ⟨_, hreport', rfl, rfl, rfl, rfl, fun _ => ⟨_, _, rfl, rfl, .inl ⟨_, _, rfl, rfl⟩⟩⟩
    · cases hreport.symm.trans h

end ComponentLookup.Engine

namespace ComponentLookup.Sample

/-- A program with line ends of all three kinds between its tokens, and a name of two bytes. -/
def mixedLineEnds : List Nat :=
  [123, 13, 10, 34, 116, 121, 112, 101, 34, 58, 13, 34, 80, 114, 111, 103, 114, 97, 109, 34, 44, 10,
    34, 195, 169, 34, 58, 32, 49, 125]

/-- A directory with the one file. -/
def directory : FileTree := { files := [(["program.json"], mixedLineEnds)], directories := [] }

end ComponentLookup.Sample

namespace ComponentLookup

open Sample Engine in
theorem runFile_runBytes_mixedLineEnds :
    ∃ text, isPathText "./program.json" = true ∧
      directory.open? "./program.json" = .ok mixedLineEnds ∧
      Encoding.decodeUtf8 mixedLineEnds = .ok text ∧ 0 ∉ mixedLineEnds ∧
      ¬ [0xEF, 0xBB, 0xBF] <+: mixedLineEnds ∧
      ∃ report report',
        (runFile .default .initial directory "./program.json").report = .ok report ∧
        (runBytes .default .initial mixedLineEnds).report = .ok report' ∧
        report'.success = report.success ∧ report'.tree = report.tree ∧
        report'.stats = report.stats ∧ report'.trace = report.trace := by
  have hpath : isPathText "./program.json" = true := by decide
  have hopen : directory.open? "./program.json" = .ok mixedLineEnds := by decide
  have htext : Encoding.decodeUtf8 mixedLineEnds = .ok
      "\x7b\r\n\"type\":\r\"Program\",\n\"é\": 1\x7d".toList := by
    simp [Encoding.decodeUtf8, mixedLineEnds, Encoding.decodeFrom, Encoding.utf8Front,
      Encoding.isTail, bind, Except.bind, Encoding.charOf, Nat.isValidChar]
  have hzero : 0 ∉ mixedLineEnds := by decide
  have hmark : ¬ [0xEF, 0xBB, 0xBF] <+: mixedLineEnds := by decide
  obtain ⟨hreports, -, hreport⟩ :=
    runFile_runBytes .default .initial hpath hopen htext hzero hmark
  obtain ⟨report, hrun⟩ := hreport Registry.onlyBuiltins_initial
  obtain ⟨report', hrun', hsuccess, htree, hstats, htrace, -⟩ := hreports report hrun
  exact ⟨_, hpath, hopen, htext, hzero, hmark, report, report', hrun, hrun', hsuccess, htree,
    hstats, htrace⟩

end ComponentLookup
