import ComponentLookup.Console.Jobs
import ComponentLookup.Proofs.Console.Markup
import ComponentLookup.Proofs.Engine.FileOutcome

/-!
# Rejected input on a console

A job rejects its input with a report, and logs the error before it hands the report over.  The
console reads the error as markup, and the error quotes the input as it is.  So a job whose messages
are shown comes to its report only if the console can read them all
(`Output.report_showJobWith_eq_ok_iff`).

How markup is read is a matter of the console.  Two rules are relied on, and hold of the reader that
runs (`Console.readsMarkup_plainText`): text without an opening bracket is shown, and a closing tag
where nothing is open is a fault (`Console.ReadsMarkup`).  With any such reader:

* `Output.showJob_rejected` : the rejection of a value that is no program **is reported, unless
  errors are shown and the message cannot be read**; a type tag without a bracket is always
  reported, and one that begins with a closing tag never on a console that shows errors.
* `not_rejections_reported` : no such reader has every rejection reported, even on the console that
  is in use at the start.
* `Output.exists_report_showJobWith_runFile_iff` : a job on a file comes to a report on a console
  just if the file is decodable and the messages can be read, which they cannot for a path such as
  `[/x]` where no file is (`Output.report_showJobWith_runFile_of_closesFirst`).
-/

namespace ComponentLookup

/-! ### Readers of markup -/

namespace Console

/-- A closing tag, with letters between the slash and the bracket, stands before all other tags. -/
def ClosesFirst (text : List Char) : Prop :=
  ∃ before name behind, text = before ++ '[' :: '/' :: (name ++ ']' :: behind) ∧
    '[' ∉ before ∧ before.getLast? ≠ some '\\' ∧ name ≠ [] ∧ name.all Char.isAlpha = true

/-- Quoted text closes first if it does so by itself. -/
theorem ClosesFirst.quoted {text : List Char} (h : ClosesFirst text) {before behind : List Char}
    (hopen : '[' ∉ before) (hlast : before.getLast? ≠ some '\\') :
    ClosesFirst (before ++ text ++ behind) := by
  obtain ⟨front, name, rest, rfl, hfront, hslash, hname⟩ := h
  refine ⟨before ++ front, name, rest ++ behind, by simp, ?_, ?_, hname⟩
  · rw [List.mem_append, not_or]
    exact ⟨hopen, hfront⟩
  · rw [List.getLast?_append]
    cases hl : front.getLast? with
    | none => exact hlast
    | some c => exact fun heq => hslash (hl.trans heq)

/-- What is relied on of a reader of markup. -/
structure ReadsMarkup {φ : Type} (read : String → Except φ (List Char)) : Prop where
  /-- Without an opening bracket there is no tag, and the text is shown. -/
  plain (message : String) : '[' ∉ message.toList → ∃ text, read message = .ok text
  /-- A closing tag where nothing is open is a fault. -/
  closing (message : String) : ClosesFirst message.toList → ∃ fault, read message = .error fault

namespace Markup

theorem slashesBehind_eq_zero {text : List Char} (h : text.getLast? ≠ some '\\') :
    slashesBehind 0 text = 0 := by
  rcases List.eq_nil_or_concat text with rfl | ⟨front, c, rfl⟩
  · rfl
  · rw [List.concat_eq_append] at h ⊢
    have hc : c ≠ '\\' := by simpa using h
    rw [slashesBehind, List.foldl_append, List.foldl_cons, if_neg hc, List.foldl_nil]

theorem exists_tags_of_closesFirst {text : List Char} (h : ClosesFirst text) :
    ∃ cs rest, tags text = [cs] ++ rest ∧ isClosing cs = true := by
  obtain ⟨before, name, behind, rfl, hopen, hslash, -, hletters⟩ := h
  have hinner : ('/' :: name).all isInner = true := by
    rw [List.all_cons, List.all_eq_true.2 fun c hc => ?_]
    · rfl
    · have hletter := List.all_eq_true.1 hletters c hc
      rw [isInner, Bool.and_eq_true, bne_iff_ne, bne_iff_ne]
      constructor <;> (rintro rfl; revert hletter; decide)
  have htag : tag? ('/' :: (name ++ ']' :: behind)) = some ('/' :: name, behind) :=
    tag?_eq_some_iff.2 ⟨⟨rfl, hinner⟩, rfl⟩
  refine ⟨'/' :: name, tagsBehind 0 ('/' :: (name ++ ']' :: behind)), ?_, rfl⟩
  rw [tags, tagsBehind_append hopen, slashesBehind_eq_zero hslash, tagsBehind_bracket, htag]
  rfl

end Markup

/-- The reader that runs follows the rules. -/
theorem readsMarkup_plainText : ReadsMarkup Markup.plainText where
  plain message hplain := by
    cases hread : Markup.plainText message with
    | ok text => exact ⟨text, rfl⟩
    | error fault =>
      exact absurd (Markup.plainText_eq_error_iff.1 hread) (Markup.not_refused hplain)
  closing message hcloses := by
    obtain ⟨cs, rest, htags, hcs⟩ := Markup.exists_tags_of_closesFirst hcloses
    obtain ⟨fault, hrefused⟩ := Markup.exists_refused_of_closing htags (by simp [hcs])
    exact ⟨fault, Markup.plainText_eq_error_iff.2 hrefused⟩

end Console

open Console

/-! ### Messages about values that are no programs -/

namespace Engine

variable {v : Json}

/-- The message quotes the type tag. -/
theorem toList_notAProgramMessage (v : Json) : (notAProgramMessage v).toList =
    "Expected an ESTree 'Program' node, got '".toList ++ (foundType v).toList ++ "'.".toList := by
  unfold notAProgramMessage
  rw [String.toList_append, String.toList_append]

theorem notMem_notAProgramMessage (h : '[' ∉ (foundType v).toList) :
    '[' ∉ (notAProgramMessage v).toList := by
  rw [toList_notAProgramMessage, List.mem_append, List.mem_append]
  rintro ((hmem | hmem) | hmem)
  · revert hmem
    decide
  · exact h hmem
  · revert hmem
    decide

theorem closesFirst_notAProgramMessage (h : ClosesFirst (foundType v).toList) :
    ClosesFirst (notAProgramMessage v).toList := by
  rw [toList_notAProgramMessage]
  exact h.quoted (by decide) (by decide)

/-- For the reader that runs only the tags in the type tag count. -/
theorem plainText_notAProgramMessage_eq_error_iff {fault : Markup.Fault} :
    Markup.plainText (notAProgramMessage v) = .error fault ↔
      Markup.Refused (foundType v).toList fault := by
  have hbefore : '[' ∉ "Expected an ESTree 'Program' node, got '".toList := by simp
  have hslashes : Markup.slashesBehind 0 "Expected an ESTree 'Program' node, got '".toList = 0 := by
    simp [Markup.slashesBehind]
  have hbehind : "'.".toList.all Markup.isInner = true := by simp [Markup.isInner]
  rw [Markup.plainText_eq_error_iff, toList_notAProgramMessage]
  refine Markup.refused_congr ?_
  rw [Markup.tags, Markup.tagsBehind_append_inner hbehind, Markup.tagsBehind_append hbefore,
    hslashes]
  rfl

end Engine

/-! ### Shown jobs -/

namespace Output

variable {φ : Type} {read : String → Except φ (List Char)} {out : Output} {config : Config}
  {registry : Registry} {job : Job} {message : String} {v : Json} {fault : φ}

/-- The console shows errors. -/
def ShowsErrors (out : Output) : Prop := out.threshold.weight ≤ Log.Level.error.weight

variable (out) in
theorem recordLinesWith_eq_error_iff (record : Log.Record) :
    out.recordLinesWith read record = .error fault ↔ read record.message = .error fault := by
  rw [recordLinesWith]
  cases read record.message with
  | error e => simp [bind, Except.bind]
  | ok text => exact iff_of_false nofun nofun

/-- All records are shown just if each of them can be read. -/
theorem allLinesWith_snd_eq_none_iff (records : List Log.Record) :
    (out.allLinesWith read records).2 = none ↔
      ∀ record ∈ records, ∃ text, read record.message = .ok text := by
  induction records with
  | nil => simp [allLinesWith]
  | cons record rest ih =>
    rw [List.forall_mem_cons, ← ih, allLinesWith]
    cases hread : read record.message with
    | ok text => simp [recordLinesWith, hread, bind, Except.bind]
    | error fault => simp [(recordLinesWith_eq_error_iff out record).2 hread]

variable (read out job) in
/-- A job ends with the fault of a message, or with its own report. -/
theorem report_showJobWith : (out.showJobWith read job).report =
    match (out.logWith read job.log).2 with
    | some fault => .error (.message fault)
    | none => job.report.mapError .job := by
  unfold showJobWith
  split
  · next heq => rw [heq]
  · next heq => rw [heq]

/-- **A job comes to its report on a console** just if each message that is shown can be read. -/
theorem report_showJobWith_eq_ok_iff {report : Report} :
    (out.showJobWith read job).report = .ok report ↔ job.report = .ok report ∧
      ∀ record ∈ Log.atLeast out.threshold job.log, ∃ text, read record.message = .ok text := by
  rw [report_showJobWith, ← allLinesWith_snd_eq_none_iff, ← logWith]
  cases (out.logWith read job.log).2 with
  | some fault => exact iff_of_false nofun nofun
  | none =>
    rw [and_iff_left rfl]
    cases job.report with
    | error e => exact iff_of_false (by rintro ⟨⟩) (by rintro ⟨⟩)
    | ok r => exact ⟨fun h => congrArg _ (Except.ok.inj h), fun h => congrArg _ (Except.ok.inj h)⟩

/-- An error ends the job if it is shown and cannot be read. -/
theorem logWith_error_eq_some_iff :
    (out.logWith read [{ level := .error, message }]).2 = some fault ↔
      out.ShowsErrors ∧ read message = .error fault := by
  unfold logWith Log.atLeast ShowsErrors
  -- The one record is left out, or it is the only one to be shown.
  rw [List.filter_singleton]
  dsimp only
  by_cases hshown : out.threshold.weight ≤ Log.Level.error.weight
  · rw [decide_eq_true hshown, cond_true, allLinesWith, and_iff_right hshown,
      ← recordLinesWith_eq_error_iff out { level := .error, message }]
    cases out.recordLinesWith read { level := .error, message } with
    | error e => simp
    | ok lines => exact iff_of_false nofun nofun
  · rw [decide_eq_false hshown, cond_false]
    exact iff_of_false nofun fun h => hshown h.1

variable (read out registry message) in
theorem report_showJobWith_reject :
    (out.showJobWith read (Engine.reject registry message)).report =
      match (out.logWith read [{ level := .error, message }]).2 with
      | some fault => .error (.message fault)
      | none => .ok (Report.failed message) :=
  report_showJobWith read out _

theorem report_showJobWith_reject_eq_error_iff :
    (out.showJobWith read (Engine.reject registry message)).report = .error (.message fault) ↔
      out.ShowsErrors ∧ read message = .error fault := by
  rw [report_showJobWith_reject, ← logWith_error_eq_some_iff]
  cases (out.logWith read [{ level := .error, message }]).2 with
  | some e => simp
  | none => exact iff_of_false nofun nofun

theorem report_showJobWith_reject_eq_ok_iff :
    (out.showJobWith read (Engine.reject registry message)).report = .ok (Report.failed message) ↔
      ¬ ∃ fault, out.ShowsErrors ∧ read message = .error fault := by
  simp only [report_showJobWith_reject, ← logWith_error_eq_some_iff]
  cases (out.logWith read [{ level := .error, message }]).2 with
  | some e => exact iff_of_false (by rintro ⟨⟩) fun h => h ⟨e, rfl⟩
  | none => exact iff_of_true rfl (by simp)

/-! ### Rejections -/

variable (out config registry) in
theorem showJobWith_run_other (hv : ¬ v.isKind "Program" = true) :
    out.showJobWith read (Engine.run config registry v) =
      out.showJobWith read (Engine.reject registry (Engine.notAProgramMessage v)) := by
  rw [Engine.run, if_neg hv]

/-- **A rejection is reported, unless errors are shown and the message cannot be read.**  Then the
job ends with the fault of the message, and has no report.  Only a long integer in the value keeps
the job from its message. -/
theorem showJob_rejected (hread : ReadsMarkup read) (out : Output) (config : Config)
    (registry : Registry) (hv : ¬ v.isKind "Program" = true) :
    let job := Engine.run config registry v
    let report := (out.showJobWith read job).report
    let message := Engine.notAProgramMessage v
    (v.Readable → Engine.Strict.run config registry v = .ok job) ∧
    (∀ fault, Engine.Strict.run config registry v = .error fault →
      fault = .longInteger ∧ ¬ v.Readable) ∧
    (report = .ok (Report.failed message) ↔
      ¬ ∃ fault, out.ShowsErrors ∧ read message = .error fault) ∧
    (∀ fault, report = .error (.message fault) ↔ out.ShowsErrors ∧ read message = .error fault) ∧
    ('[' ∉ (Engine.foundType v).toList → report = .ok (Report.failed message)) ∧
    (ClosesFirst (Engine.foundType v).toList → out.ShowsErrors →
      ∃ fault, report = .error (.message fault)) := by
  have hjob := Engine.Strict.unlessLong_run_other config registry hv
  dsimp only
  rw [showJobWith_run_other out config registry hv]
  refine ⟨hjob.eq, fun fault => hjob.of_error, report_showJobWith_reject_eq_ok_iff,
    fun fault => report_showJobWith_reject_eq_error_iff, fun hplain => ?_, fun hcloses hshown => ?_⟩
  · rw [report_showJobWith_reject_eq_ok_iff]
    rintro ⟨fault, -, hfault⟩
    obtain ⟨text, htext⟩ := hread.plain _ (Engine.notMem_notAProgramMessage hplain)
    cases htext.symm.trans hfault
  · obtain ⟨fault, hfault⟩ := hread.closing _ (Engine.closesFirst_notAProgramMessage hcloses)
    exact ⟨fault, report_showJobWith_reject_eq_error_iff.2 ⟨hshown, hfault⟩⟩

/-! ### Jobs on files -/

variable {files : FileTree} {path : String}

variable (read out config files path) in
/-- **A job on a file comes to a report on a console** just if the file is decodable and all
messages that are shown can be read. -/
theorem exists_report_showJobWith_runFile_iff (h : registry.OnlyBuiltins) :
    (∃ report, (out.showJobWith read (Engine.runFile config registry files path)).report =
        .ok report) ↔
      Engine.IsDecodable files path ∧
        ∀ record ∈ Log.atLeast out.threshold (Engine.runFile config registry files path).log,
          ∃ text, read record.message = .ok text := by
  simp only [report_showJobWith_eq_ok_iff, exists_and_right,
    Engine.exists_report_runFile_iff config files path h]

/-- The path of a file that cannot be opened is quoted as well, and can end the job. -/
theorem report_showJobWith_runFile_of_closesFirst (hread : ReadsMarkup read)
    (hpath : isPathText path = true) {e : FileError} (hopen : files.open? path = .error e)
    (hcloses : ClosesFirst (plainPath path).toList) (hshown : out.ShowsErrors) :
    ∃ fault, (out.showJobWith read (Engine.runFile config registry files path)).report =
      .error (.message fault) := by
  have hquoted : ClosesFirst (Engine.cannotReadMessage (plainPath path) e).toList := by
    rw [Engine.cannotReadMessage, String.toList_append, String.toList_append,
      String.toList_append, List.append_assoc]
    exact hcloses.quoted (by decide) (by decide)
  obtain ⟨fault, hfault⟩ := hread.closing _ hquoted
  rw [Engine.runFile_of_open_error hpath hopen]
  exact ⟨fault, report_showJobWith_reject_eq_error_iff.2 ⟨hshown, hfault⟩⟩

end Output

namespace Sample

/-- A node whose type is a closing tag. -/
def closingType : Json := .obj [("type", .str "[/x]")]

theorem closesFirst_closingType : ClosesFirst (Engine.foundType closingType).toList :=
  ⟨[], ['x'], [], by decide, by simp, by simp, by simp, by decide⟩

theorem showsErrors_initial : Output.initial.ShowsErrors :=
  show Output.initial.threshold.weight ≤ _ by decide

end Sample

open Sample in
theorem showJob_rejected_closingType :
    ReadsMarkup Markup.plainText ∧ ¬ closingType.isKind "Program" = true ∧ closingType.Readable ∧
      ∃ job fault, Engine.Strict.run .default .initial closingType = .ok job ∧
        (Output.initial.showJobWith Markup.plainText job).report = .error (.message fault) := by
  have hv : ¬ closingType.isKind "Program" = true := by decide
  have hreadable : closingType.Readable :=
    (Json.hasLongInt_eq_false_iff (by decide)).1 (by decide +kernel)
  obtain ⟨hjob, -, -, -, -, hcloses⟩ :=
    Output.showJob_rejected readsMarkup_plainText .initial .default .initial hv
  obtain ⟨fault, hfault⟩ := hcloses closesFirst_closingType showsErrors_initial
  exact ⟨readsMarkup_plainText, hv, hreadable, _, fault, hjob hreadable, hfault⟩

open Sample in
/-- Not every rejection is reported, whatever reader of markup the console has, even on the console
that is in use at the start. -/
theorem not_rejections_reported :
    ¬ ∃ (φ : Type) (read : String → Except φ (List Char)), ReadsMarkup read ∧
      ∀ (config : Config) (registry : Registry) (v : Json), ¬ v.isKind "Program" = true →
        ∃ report, (Output.initial.showJobWith read (Engine.run config registry v)).report =
          .ok report ∧ report.success = false ∧ report.errors = [Engine.notAProgramMessage v] := by
  rintro ⟨φ, read, hread, hall⟩
  have hv : ¬ closingType.isKind "Program" = true := by decide
  obtain ⟨report, hreport, -⟩ := hall .default .initial closingType hv
  obtain ⟨fault, hfault⟩ :=
    hread.closing _ (Engine.closesFirst_notAProgramMessage closesFirst_closingType)
  rw [Output.showJobWith_run_other .initial .default .initial hv,
    Output.report_showJobWith_reject_eq_error_iff.2 ⟨showsErrors_initial, hfault⟩] at hreport
  cases hreport

end ComponentLookup
