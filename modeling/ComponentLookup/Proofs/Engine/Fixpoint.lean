import ComponentLookup.Proofs.Engine.Outcome
import ComponentLookup.Proofs.Json.Read
import ComponentLookup.Proofs.Program.Idempotence

/-!
# Jobs on what a job has written

The tree in the report of a job can be written as JSON text and be given to another job.  That one
reads the same tree (`Json.read_write`), and finds it resolved: `Engine.run_toJsonText`.

What is read has distinct field names and no integer that is too long (`Json.of_readChars`), and a
resolution keeps this (`Program.hereditary_resolved`).  Only doubles have to be kept out, since the
text of a double is not looked into here.
-/

namespace ComponentLookup

open Json

/-! ### Traces without edits -/

/-- A trace without edits shows no event that is one. -/
theorem Tracer.toJson_of_mutations_eq_nil {t : Tracer} (h : t.mutations = []) :
    ∀ event ∈ t.toJson, event.get? "type" ≠ some (.str "ast_mutation") := by
  intro event hevent
  obtain ⟨e, he, rfl⟩ := List.mem_map.1 hevent
  have hbody : ∀ m, e.body ≠ .mutation m := by
    intro m hm
    have hnone := List.filterMap_eq_nil_iff.1 h e he
    rw [hm] at hnone
    cases hnone
  have hget : e.toJson.get? "type" = some (.str e.body.typeName) := rfl
  rw [hget]
  cases hb : e.body with
  | mutation m => exact absurd hb (hbody m)
  | _ => simp [EventBody.typeName]

/-- The input is a JSON text, decoded or not. -/
def JobInput.IsJson : JobInput → Prop
  | .text _ | .bytes _ => True
  | _ => False

/-- The input is the text of the value, or bytes that hold it. -/
def JobInput.Holds (v : Json) : JobInput → Prop
  | .text (.str s) => Json.read s = .ok v
  | .bytes bs => ∃ text, Encoding.decode (Encoding.detect bs) bs = .ok text ∧
      Json.readChars text = .ok v
  | _ => False

namespace Engine

variable {config : Config} {registry registry' : Registry} {tree : Json} {report : Report}

/-- The job on a program without doubles can be done again on what is written of it. -/
theorem runText_write (h : registry.OnlyBuiltins) (h' : registry'.OnlyBuiltins)
    (hd : tree.DistinctKeys) (hlong : Without IsLongInt tree) (hdouble : Without IsDouble tree)
    (hrun : (run config registry tree).report = .ok report) (hsuccess : report.success = true)
    (indent : Indent) :
    ∃ report' : Report, (runText config registry' (report.toJsonText indent)).report = .ok report' ∧
      report'.success = true ∧ report'.errors = [] ∧ report'.tree = report.tree ∧
      report'.stats = Stats.initial ∧
      ∀ event ∈ report'.trace, event.get? "type" ≠ some (.str "ast_mutation") := by
  have hp : tree.isKind "Program" = true := by
    by_contra hp
    rw [run_other hp] at hrun
    cases hrun
    cases hsuccess
  obtain ⟨_, -, hfirst⟩ := Resolver.resolve_eq (.new config none) h hp hd
  rw [run_of_resolve hp hfirst] at hrun
  obtain rfl := Except.ok.inj hrun
  -- the resolved tree is read back
  have hp' : (Program.resolved config tree).isKind "Program" = true := by
    rw [Program.isKind_resolved? (Program.resolved?_eq_resolved hp), hp]
  obtain ⟨hd', hlong'⟩ : _ ∧ Without IsLongInt (Program.resolved config tree) :=
    Program.hereditary_resolved hereditary_withoutLongInt hp ⟨hd, hlong⟩
  obtain ⟨-, hdouble'⟩ : _ ∧ Without IsDouble (Program.resolved config tree) :=
    Program.hereditary_resolved hereditary_withoutDouble hp ⟨hd, hdouble⟩
  have hread : Json.read ((Program.resolved config tree).write indent) = _ :=
    read_write indent hd' hdouble' hlong'
  -- and there is nothing left to resolve in it
  obtain ⟨_, -, hsecond⟩ := Resolver.resolve_eq (.new config none) h' hp' hd'
  have hquiet := Resolver.quiet_opening (r := .new config none) fun v =>
    Program.resolvedStatement?_of_mem_subjects (v := tree) hp
  have hrun' : runText config registry' ((Program.resolved config tree).write indent) =
      run config registry' (Program.resolved config tree) := by
    rw [runText, hread]
  have hmutations := hquiet.2.trans (show (Tracer.empty config.trace).mutations = [] from rfl)
  change ∃ report',
    (runText config registry' ((Program.resolved config tree).write indent)).report =
      .ok report' ∧ _
  rw [hrun', run_of_resolve hp' hsecond]
  exact ⟨_, rfl, rfl, rfl, Program.resolved_resolved hp, hquiet.1,
    Tracer.toJson_of_mutations_eq_nil hmutations⟩

/-- A job on JSON text that succeeds is a job on the value in the text. -/
theorem exists_holds {input : JobInput} (hinput : input.IsJson)
    (hrun : (runInput config registry input).report = .ok report)
    (hsuccess : report.success = true) :
    ∃ tree : Json, input.Holds tree ∧ (tree.DistinctKeys ∧ Without IsLongInt tree) ∧
      (run config registry tree).report = .ok report := by
  cases input with
  | tree v => cases hinput
  | file path files => cases hinput
  | text v =>
    cases v with
    | str s =>
      simp only [runInput, runText] at hrun
      cases hread : Json.read s with
      | error e =>
        rw [hread] at hrun
        cases hrun
        cases hsuccess
      | ok tree =>
        rw [hread] at hrun
        exact ⟨tree, hread, of_read hread, hrun⟩
    | _ => cases hrun
  | bytes bs =>
    simp only [runInput, runBytes] at hrun
    cases htext : Encoding.decode (Encoding.detect bs) bs with
    | error f =>
      rw [htext] at hrun
      cases hrun
      cases hsuccess
    | ok text =>
      simp only [htext] at hrun
      cases hread : Json.readChars text with
      | error e =>
        rw [hread] at hrun
        cases hrun
        cases hsuccess
      | ok tree =>
        rw [hread] at hrun
        exact ⟨tree, ⟨text, htext, hread⟩, of_readChars hread, hrun⟩

/-- **The report of a job on JSON text can be written and be done again**, and then nothing is left
to do.  The tree in the second report is the same, the counters stand at zero, and no event in the
trace is an edit. -/
theorem runText_toJsonText (config : Config) (h : registry.OnlyBuiltins)
    (h' : registry'.OnlyBuiltins) {input : JobInput} (hinput : input.IsJson)
    (hrun : (runInput config registry input).report = .ok report)
    (hsuccess : report.success = true) :
    ∃ tree : Json, input.Holds tree ∧ (Without IsDouble tree → ∀ n : Option Int,
      ∃ report' : Report,
        (runText config registry' (report.toJsonText (.ofInt? n))).report = .ok report' ∧
        report'.success = true ∧ report'.errors = [] ∧ report'.tree = report.tree ∧
        report'.stats = Stats.initial ∧
        ∀ event ∈ report'.trace, event.get? "type" ≠ some (.str "ast_mutation")) := by
  obtain ⟨tree, htree, ⟨hd, hlong⟩, hfirst⟩ := exists_holds hinput hrun hsuccess
  exact ⟨tree, htree, fun hdouble n => runText_write h h' hd hlong hdouble hfirst hsuccess _⟩

end Engine

namespace Sample

/-- A program with the helper, an integer, empty containers and a text that is written with
escapes. -/
def escaped : Json := program [helper, .int (-12), .arr [], .obj [], .str "é😀\n"]

end Sample

open Sample Engine in
theorem runText_toJsonText_escaped :
    let input : JobInput := .text (.str (escaped.write none))
    Registry.initial.OnlyBuiltins ∧ input.IsJson ∧
      ∃ report : Report, (runInput .default .initial input).report = .ok report ∧
        report.success = true ∧ ∃ report' : Report,
          (runText .default .initial (report.toJsonText (.ofInt? (some 2)))).report = .ok report' ∧
          report'.tree = report.tree ∧ report'.stats = Stats.initial := by
  intro input
  have h := Registry.onlyBuiltins_initial
  have hjson : input.IsJson := trivial
  have hdouble : Without IsDouble escaped := without_of_places (by decide)
  have hlong : Without IsLongInt escaped := without_of_places (by decide +kernel)
  have hread : Json.read (escaped.write none) = .ok escaped :=
    read_write none (by decide) hdouble hlong
  obtain ⟨report, hreport, hsuccess, -⟩ :=
    run_program .default h (show escaped.isKind "Program" = true by decide)
  have hrun : (runInput .default .initial input).report = .ok report := by
    change (runText .default .initial (escaped.write none)).report = .ok report
    rw [runText, hread]
    exact hreport
  obtain ⟨tree, htree, hfixpoint⟩ := runText_toJsonText .default h h hjson hrun hsuccess
  obtain rfl : escaped = tree := Except.ok.inj (hread.symm.trans htree)
  obtain ⟨report', hreport', -, -, hsame, hstats, -⟩ := hfixpoint hdouble (some 2)
  exact ⟨h, hjson, report, hrun, hsuccess, report', hreport', hsame, hstats⟩

end ComponentLookup
