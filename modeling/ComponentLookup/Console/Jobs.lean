import ComponentLookup.Console.Basic
import ComponentLookup.Engine

/-!
# Jobs on a console

The messages of a job are shown while it runs, so a message that cannot be shown ends it: what was
shown before stays, and there is no report, whatever the job would have come to
(`Output.showJobWith`, for any reader of markup).
-/

namespace ComponentLookup

/-- Why a job whose messages are shown ended without a report. -/
inductive ShownJobError (φ : Type) where
  /-- A message could not be read. -/
  | message (fault : φ)
  | job (e : JobError)
  deriving DecidableEq

/-- A job whose messages are shown: the lines, and the report. -/
structure ShownJob (φ : Type) where
  lines : List String
  report : Except (ShownJobError φ) Report

namespace Output

variable {φ : Type} (read : String → Except φ (List Char)) (out : Output)

/-- Shows the messages of a job. -/
def showJobWith (job : Job) : ShownJob φ :=
  match out.logWith read job.log with
  | (lines, some fault) => { lines, report := .error (.message fault) }
  | (lines, none) => { lines, report := job.report.mapError .job }

/-- Shows the messages of a job. -/
def showJob (job : Job) : ShownJob Console.Markup.Fault :=
  out.showJobWith Console.Markup.plainText job

end Output

end ComponentLookup
