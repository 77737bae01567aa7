import ImpactGraph.Failure

/-!
# Build reports

What happened to each file of a build: it was processed, it was left out for a reason, or
it failed.
-/

namespace ImpactGraph

/-- A file that was left out, and why. -/
structure Skipped where
  path : Text
  reason : Text
  deriving DecidableEq, Repr

/-- What happened to the files of one build, in order. -/
structure Report where
  processed : List Text := []
  skipped : List Skipped := []
  failures : List Failure := []

namespace Report

/-- The reason for files that a pattern excludes. -/
def excluded : Text := "excluded".toList

/-- The reason for files that do not exist. -/
def notFound : Text := "not_found".toList

/-- The report with a processed file. -/
def recordProcessed (r : Report) (path : Text) : Report :=
  { r with processed := r.processed ++ [path] }

/-- The report with a file that was left out. -/
def recordSkipped (r : Report) (path reason : Text) : Report :=
  { r with skipped := r.skipped ++ [⟨path, reason⟩] }

/-- The report with a failure. -/
def recordFailure (r : Report) (failure : Failure) : Report :=
  { r with failures := r.failures ++ [failure] }

/-- Whether nothing fatal was recorded. -/
def success (r : Report) : Bool := r.failures.all (·.kind.exitCode ≠ .fatal)

/-- The worst exit code of the failures; wrong settings outweigh a fatal failure. -/
def exitCode (r : Report) : ExitCode :=
  let codes := r.failures.map (·.kind.exitCode)
  if codes = [] then .success
  else if .settings ∈ codes then .settings
  else if .fatal ∈ codes then .fatal
  else .partialSuccess

/-- How many files were left out for each reason, in the order in which the reasons came
up. -/
def skipCounts (r : Report) : List (Text × Nat) :=
  (Text.distinct (r.skipped.map (·.reason))).map fun reason =>
    (reason, r.skipped.countP (·.reason = reason))

/-- The files whose extraction failed. -/
def failedFiles (r : Report) : List Value := r.failures.filterMap (·.failedFile?)

/-- A skipped file as a table. -/
def skippedValue (s : Skipped) : Value :=
  .table [("path".toList, .text s.path), ("reason".toList, .text s.reason)]

/-- A report as a table. -/
def toValue (r : Report) : Value :=
  .table [("success".toList, .bool r.success),
    ("exit_code".toList, .nat r.exitCode.toNat),
    ("processed".toList, .nat r.processed.length),
    ("skipped".toList, .nat r.skipped.length),
    ("skip_reasons".toList, .table (r.skipCounts.map fun c => (c.1, .nat c.2))),
    ("errors".toList, .list (r.failures.map Failure.toValue)),
    ("skipped_files".toList, .list (r.skipped.map skippedValue))]

end Report

end ImpactGraph
