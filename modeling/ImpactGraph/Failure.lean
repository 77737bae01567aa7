import ImpactGraph.Value

/-!
# Failures

What can go wrong for a file or a request and is told to the user: its kind, a message,
and the details that belong to it. The kind alone decides the exit code of the program.
-/

namespace ImpactGraph

/-- How the program ends. -/
inductive ExitCode where
  | success
  /-- The settings are wrong, or a file that was asked for is not there. -/
  | settings
  /-- The graph was built, and some files were left out. -/
  | partialSuccess
  | fatal
  deriving DecidableEq, Repr

/-- The number of an exit code. -/
def ExitCode.toNat : ExitCode → Nat
  | success => 0
  | settings => 1
  | partialSuccess => 2
  | fatal => 3

/-- The kinds of failures. -/
inductive FailureKind where
  | general
  | settings
  | extraction
  | unsupportedLanguage
  | indexer
  deriving DecidableEq, Repr

namespace FailureKind

/-- The name a kind of failure is reported under. -/
def name : FailureKind → Text
  | general => "DepscopeError".toList
  | settings => "ConfigError".toList
  | extraction => "ExtractionError".toList
  | unsupportedLanguage => "UnsupportedLanguageError".toList
  | indexer => "IndexerError".toList

/-- The exit code of a kind of failure. -/
def exitCode : FailureKind → ExitCode
  | general => .fatal
  | settings => .settings
  | extraction | unsupportedLanguage | indexer => .partialSuccess

end FailureKind

/-- A failure with its details. -/
structure Failure where
  kind : FailureKind
  message : Text
  details : List (Text × Value) := []

namespace Failure

/-- The failure of a file whose facts could not be extracted. -/
def extraction (message file : Text) (details : List (Text × Value)) : Failure :=
  ⟨.extraction, message, ("file_path".toList, .text file) :: details⟩

/-- The failure of a name that is no language. -/
def unsupportedLanguage (language file : Text) : Failure :=
  ⟨.unsupportedLanguage, "No rules for language: ".toList ++ language,
    [("language".toList, .text language), ("file_path".toList, .text file)]⟩

/-- The file of a failed extraction. -/
def failedFile? (f : Failure) : Option Value :=
  if f.kind = .extraction then
    some ((f.details.lookup "file_path".toList).getD .null) else none

/-- A failure as a table. Details take the place of the fields they share a name with. -/
def toValue (f : Failure) : Value :=
  .tableOf ([("error".toList, .text f.kind.name), ("message".toList, .text f.message),
    ("exit_code".toList, .nat f.kind.exitCode.toNat)] ++ f.details)

end Failure

end ImpactGraph
