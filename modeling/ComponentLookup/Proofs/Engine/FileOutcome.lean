import ComponentLookup.Proofs.Engine.File
import ComponentLookup.Proofs.Json.RoundTrip

/-!
# The outcome of a job on a file

A job on a file passes four stages: the path is opened, the bytes are decoded, the text is read and
its value is resolved.  What goes wrong while a file is opened, while its text is read or with its
value is told in the report.  Two faults have no handler: a path that is none, and bytes that are
not UTF-8.

* `Engine.runFile_eq_error_iff` : these two are **the only ways in which a job on a file ends
  without a report**.
* `Engine.runFile_outcome` : in all other cases there is a report, of a success exactly where the
  bytes are the text of a program; `Engine.not_runFile_returns` is a file of one byte without one.

The messages of the job are not shown here.  What becomes of it on a console is told in
`ComponentLookup.Proofs.Console.Rejection`.
-/

namespace ComponentLookup.Engine

open Json

variable {config : Config} {registry : Registry} {files : FileTree} {path : String} {tree : Json}
  {failure : JobError}

/-! ### What a path leads to -/

/-- The path leads to a file that is UTF-8 and the text of the value. -/
def Holds (files : FileTree) (path : String) (tree : Json) : Prop :=
  ∃ bytes text, files.open? path = .ok bytes ∧ Encoding.decodeUtf8 bytes = .ok text ∧
    Json.read (String.ofList text) = .ok tree

/-- The path is one, and if a file can be opened there, that is UTF-8. -/
def IsDecodable (files : FileTree) (path : String) : Prop :=
  isPathText path = true ∧
    ∀ bytes, files.open? path = .ok bytes → ∃ text, Encoding.decodeUtf8 bytes = .ok text

/-- What goes wrong with a file that is not decodable. -/
inductive Undecodable (files : FileTree) (path : String) : JobError → Prop
  | nullInPath : ¬ isPathText path = true → Undecodable files path .nullInPath
  | undecodable {bytes : List Nat} {fault : DecodeFault} : isPathText path = true →
      files.open? path = .ok bytes → Encoding.decodeUtf8 bytes = .error fault →
      Undecodable files path (.undecodable fault)

theorem Undecodable.not_isDecodable (h : Undecodable files path failure) :
    ¬ IsDecodable files path := by
  rintro ⟨hpath, hdecodable⟩
  cases h with
  | nullInPath hnot => exact hnot hpath
  | undecodable _ hopen hdecode =>
    obtain ⟨text, htext⟩ := hdecodable _ hopen
    cases hdecode.symm.trans htext

theorem Undecodable.eq {failure' : JobError} (h : Undecodable files path failure)
    (h' : Undecodable files path failure') : failure' = failure := by
  cases h with
  | nullInPath hnot =>
    cases h' with
    | nullInPath => rfl
    | undecodable hpath => exact absurd hpath hnot
  | undecodable hpath hopen hdecode =>
    cases h' with
    | nullInPath hnot => exact absurd hpath hnot
    | undecodable _ hopen' hdecode' =>
      cases hopen.symm.trans hopen'
      cases hdecode.symm.trans hdecode'
      rfl

/-! ### All files -/

variable (config registry) in
/-- The text of a file is resolved if it is that of a value, and rejected if not; its line ends do
not matter for that. -/
theorem runText_normalizeNewlines (text : List Char) :
    (∃ tree, Json.read (String.ofList text) = .ok tree ∧
      runText config registry (String.ofList (normalizeNewlines text)) =
        run config registry tree) ∨
    (∀ tree, Json.read (String.ofList text) ≠ .ok tree) ∧ ∃ message,
      runText config registry (String.ofList (normalizeNewlines text)) =
        reject registry message := by
  unfold runText
  obtain ⟨tree, hread', hread⟩ | ⟨e', e, hread', hread⟩ :=
    ok_or_error_of_toOption_eq (toOption_read_ofList_normalizeNewlines text)
  · rw [hread', hread]
    exact .inl ⟨tree, rfl, rfl⟩
  · rw [hread', hread]
    exact .inr ⟨nofun, _, rfl⟩

variable (config registry files path) in
/-- What a job on a file can do: end without a report, resolve the value that the file holds, or
reject a file that holds none. -/
theorem runFile_outcomes :
    (∃ failure, Undecodable files path failure ∧ runFile config registry files path =
      { report := .error failure, log := [], registry }) ∨
    IsDecodable files path ∧
      ((∃ tree, Holds files path tree ∧
        runFile config registry files path = run config registry tree) ∨
      (∀ tree, ¬ Holds files path tree) ∧
        ∃ message, runFile config registry files path = reject registry message) := by
  by_cases hpath : isPathText path = true
  · cases hopen : files.open? path with
    | error e =>
      refine .inr ⟨⟨hpath, fun _ h => ?_⟩, .inr ⟨?_, _, runFile_of_open_error hpath hopen⟩⟩
      · cases hopen.symm.trans h
      · rintro tree ⟨bytes, -, h, -⟩
        cases hopen.symm.trans h
    | ok bytes =>
      cases hdecode : Encoding.decodeUtf8 bytes with
      | error fault =>
        exact .inl ⟨_, .undecodable hpath hopen hdecode,
          runFile_of_undecodable hpath hopen hdecode⟩
      | ok text =>
        refine .inr ⟨⟨hpath, fun _ h => ?_⟩, ?_⟩
        · cases hopen.symm.trans h
          exact ⟨text, hdecode⟩
        · rw [runFile_of_text hpath hopen hdecode]
          obtain ⟨tree, hread, hrun⟩ | ⟨hread, hrejected⟩ :=
            runText_normalizeNewlines config registry text
          · exact .inl ⟨tree, ⟨bytes, text, hopen, hdecode, hread⟩, hrun⟩
          · refine .inr ⟨?_, hrejected⟩
            rintro tree ⟨bytes', text', hopen', hdecode', hread'⟩
            cases hopen.symm.trans hopen'
            cases hdecode.symm.trans hdecode'
            exact hread tree hread'
  · exact .inl ⟨_, .nullInPath hpath, runFile_of_not_isPathText hpath⟩

theorem Holds.eq {tree' : Json} (h : Holds files path tree) (h' : Holds files path tree') :
    tree' = tree := by
  obtain ⟨bytes, text, hopen, hdecode, hread⟩ := h
  obtain ⟨bytes', text', hopen', hdecode', hread'⟩ := h'
  cases hopen.symm.trans hopen'
  cases hdecode.symm.trans hdecode'
  exact Except.ok.inj (hread'.symm.trans hread)

/-- **A job on a file ends without a report only** at a path that is none and at bytes that are not
UTF-8. -/
theorem runFile_eq_error_iff (h : registry.OnlyBuiltins) :
    (runFile config registry files path).report = .error failure ↔
      Undecodable files path failure := by
  obtain ⟨failure', hfailure, hrun⟩ | ⟨hdecodable, ⟨tree, -, hrun⟩ | ⟨-, message, hrun⟩⟩ :=
    runFile_outcomes config registry files path
  · rw [hrun]
    exact ⟨fun heq => Except.error.inj heq ▸ hfailure,
      fun hfailure' => congrArg Except.error (hfailure'.eq hfailure)⟩
  · obtain ⟨report, hreport, -⟩ := report_run config h tree
    rw [hrun, hreport]
    exact iff_of_false nofun fun hfailure => hfailure.not_isDecodable hdecodable
  · rw [hrun]
    exact iff_of_false nofun fun hfailure => hfailure.not_isDecodable hdecodable

variable (config files path) in
theorem exists_report_runFile_iff (h : registry.OnlyBuiltins) :
    (∃ report, (runFile config registry files path).report = .ok report) ↔
      IsDecodable files path := by
  constructor
  · rintro ⟨report, hreport⟩
    obtain ⟨failure, -, hrun⟩ | ⟨hdecodable, -⟩ := runFile_outcomes config registry files path
    · cases hreport.symm.trans (congrArg Job.report hrun)
    · exact hdecodable
  · intro hdecodable
    cases hreport : (runFile config registry files path).report with
    | ok report => exact ⟨report, rfl⟩
    | error failure =>
      exact absurd hdecodable ((runFile_eq_error_iff h).1 hreport).not_isDecodable

/-- **The outcome of a job on any file**: a report if the file is decodable, of a success if it
holds a program and of a failure if not.  This is the job by itself, which nobody watches.  A
console that shows its messages can end it earlier (`Output.report_showJobWith_eq_ok_iff`), and so
does a path such as `[/x]` where no file is (`Output.report_showJobWith_runFile_of_closesFirst`). -/
theorem runFile_outcome (config : Config) (h : registry.OnlyBuiltins) (files : FileTree)
    (path : String) :
    let job := runFile config registry files path
    ((∃ report, job.report = .ok report) ↔ IsDecodable files path) ∧
      (∀ failure, job.report = .error failure ↔ Undecodable files path failure) ∧
      ∀ report, job.report = .ok report →
        (∀ tree, Holds files path tree → tree.isKind "Program" = true →
          report.success = true ∧ report.errors = [] ∧
            report.tree = ((Resolver.new config none).resolve registry tree).tree) ∧
        ((∀ tree, Holds files path tree → ¬ tree.isKind "Program" = true) →
          report.success = false ∧ report.errors.length = 1 ∧ report.tree = .null ∧
            report.stats = [] ∧ report.trace = []) := by
  intro job
  refine ⟨exists_report_runFile_iff config files path h, fun failure => runFile_eq_error_iff h,
    fun report hreport => ?_⟩
  obtain ⟨failure, -, hrun⟩ | ⟨-, ⟨tree, hholds, hrun⟩ | ⟨hnone, message, hrun⟩⟩ :=
    runFile_outcomes config registry files path
  · cases hreport.symm.trans (congrArg Job.report hrun)
  · obtain ⟨report', hreport', hprogram, hother⟩ := report_run config h tree
    obtain rfl : report = report' := Except.ok.inj
      (hreport.symm.trans ((congrArg Job.report hrun).trans hreport'))
    refine ⟨fun tree' hholds' hp => ?_, fun hnone => ?_⟩
    · obtain rfl := hholds.eq hholds'
      obtain ⟨hsuccess, herrors, htree, -⟩ := hprogram hp
      exact ⟨hsuccess, herrors, htree⟩
    · obtain ⟨hsuccess, herrors, -, htree, hstats, htrace, -⟩ := hother (hnone tree hholds)
      exact ⟨hsuccess, herrors, htree, hstats, htrace⟩
  · obtain rfl : Report.failed message = report :=
      Except.ok.inj ((congrArg Job.report hrun).symm.trans hreport)
    exact ⟨fun tree hholds => absurd hholds (hnone tree), fun _ => ⟨rfl, rfl, rfl, rfl, rfl⟩⟩

end ComponentLookup.Engine

namespace ComponentLookup.Sample

open Json

/-- A program without statements. -/
def emptyProgram : Json := .obj [("type", .str "Program")]

/-- A directory with a program, with a file whose one byte begins no character, and with a
directory. -/
def mixedFiles : FileTree where
  files := [(["site", "program.json"], (chars none 0 emptyProgram).map Char.toNat),
    (["broken.json"], [0xFF])]
  directories := [["empty"]]

theorem holds_program : Engine.Holds mixedFiles "site/program.json" emptyProgram := by
  have hread : Json.read (emptyProgram.write none) = .ok emptyProgram :=
    read_write none (by decide) (without_of_places (by decide)) (without_of_places (by decide))
  exact ⟨_, _, rfl, Encoding.decodeUtf8_map_toNat (by decide), hread⟩

theorem undecodable_broken : Engine.Undecodable mixedFiles "broken.json"
    (.undecodable ⟨"utf-8", 0xFF, 0, 1, .invalidStart⟩) :=
  .undecodable rfl rfl (Encoding.decodeUtf8_eq_error (by decide) [])

end ComponentLookup.Sample

namespace ComponentLookup.Engine

open Sample

theorem runFile_outcome_mixedFiles :
    Registry.initial.OnlyBuiltins ∧ Holds mixedFiles "site/program.json" emptyProgram ∧
      (∃ report, (runFile .default .initial mixedFiles "site/program.json").report = .ok report ∧
        report.success = true ∧ report.errors = []) ∧
      (∃ report, (runFile .default .initial mixedFiles "empty").report = .ok report ∧
        report.success = false ∧ report.errors.length = 1 ∧ report.tree = .null) ∧
      ∃ fault, (runFile .default .initial mixedFiles "broken.json").report =
        .error (.undecodable fault) := by
  have h := Registry.onlyBuiltins_initial
  obtain ⟨bytes, text, hopen, hdecode, -⟩ := holds_program
  have hempty : mixedFiles.open? "empty" = .error .isADirectory := rfl
  obtain ⟨hreport, -, hprogram⟩ := runFile_outcome .default h mixedFiles "site/program.json"
  obtain ⟨hreport', -, hother⟩ := runFile_outcome .default h mixedFiles "empty"
  obtain ⟨-, herror, -⟩ := runFile_outcome .default h mixedFiles "broken.json"
  obtain ⟨report, hrun⟩ := hreport.2 ⟨rfl, fun bytes' hbytes => by
    cases hopen.symm.trans hbytes; exact ⟨text, hdecode⟩⟩
  obtain ⟨report', hrun'⟩ := hreport'.2 ⟨rfl, fun bytes' hbytes => by
    cases hempty.symm.trans hbytes⟩
  obtain ⟨hsuccess, herrors, -⟩ := (hprogram report hrun).1 _ holds_program (by decide)
  obtain ⟨hfailure, hone, hnull, -⟩ := (hother report' hrun').2 fun tree ⟨_, _, hfile, _⟩ => by
    cases hempty.symm.trans hfile
  exact ⟨h, holds_program, ⟨report, hrun, hsuccess, herrors⟩,
    ⟨report', hrun', hfailure, hone, hnull⟩, _, (herror _).2 undecodable_broken⟩

/-- A file of one byte that begins no character has no report. -/
theorem not_runFile_returns :
    ¬ ∀ (files : FileTree) (path : String),
      ∃ report, (runFile .default .initial files path).report = .ok report := by
  intro hclaim
  obtain ⟨report, hreport⟩ := hclaim mixedFiles "broken.json"
  have herror : (runFile .default .initial mixedFiles "broken.json").report = .error _ :=
    (runFile_eq_error_iff Registry.onlyBuiltins_initial).2 undecodable_broken
  cases herror.symm.trans hreport

end ComponentLookup.Engine
