import ImpactGraph.Console.Markup
import ImpactGraph.Console.Table
import ImpactGraph.Failure
import ImpactGraph.Indexer.Address
import ImpactGraph.Json.Printer
import ImpactGraph.Settings.Load

/-!
# Sessions

A run of the program as a value: the files it works on, what it has written to its two
streams, and the state of its connection to the indexer. A step may stop the run, with an
exit code or because something failed that no command expects; what was written before
stays.
-/

namespace ImpactGraph.CommandLine

open Text Console

/-- What no command expects to fail. -/
inductive Crash where
  | file (unreadable : Unreadable)
  | settings (error : SettingsError)
  | address (flaw : Indexer.Address.Flaw)

/-- What is said about a crash. -/
def Crash.message : Crash → Text
  | file ⟨path, .denied⟩ | settings (.unreadable ⟨path, .denied⟩) =>
    "Permission denied: ".toList ++ path
  | file ⟨path, .isDirectory⟩ | settings (.unreadable ⟨path, .isDirectory⟩) =>
    "Expected a file, got a directory: ".toList ++ path
  | file other => other.message
  | settings error => error.message
  | address flaw => flaw.message

/-- Why a run stops. -/
inductive Stop where
  | exit (code : Nat)
  | crash (cause : Crash)

/-- The exit code of a run that was asked wrongly. -/
def misuseCode : Nat := 2

/-- The exit code of a run that cannot show what it has to say. -/
def unshownCode : Nat := 1

/-- What a run works on and has written. -/
structure Session (σ : Type) where
  workspace : Workspace
  /-- The state of the connection to the indexer. -/
  service : σ
  out : Text := []
  err : Text := []
  /-- The files that were written, by path, in order. -/
  saved : List (Text × Text) := []

/-- A step of a run. -/
abbrev Act (σ α : Type) : Type := ExceptT Stop (StateM (Session σ)) α

namespace Act

variable {σ : Type}

/-- The run stops. -/
def stop {α : Type} (why : Stop) : Act σ α := throw why

/-- The run stops with an exit code, unless that is the one of success. -/
def exitWith (code : ExitCode) : Act σ Unit :=
  if code = .success then pure () else stop (.exit code.toNat)

/-- Writes to the first stream. -/
def write (text : Text) : Act σ Unit := modify fun s => { s with out := s.out ++ text }

/-- Writes to the second stream, which is for what went wrong. -/
def complain (text : Text) : Act σ Unit := modify fun s => { s with err := s.err ++ text }

/-- What is shown of a marked-up text. -/
def shown (text : Text) : Act σ Text :=
  match plain text with
  | some shown => pure shown
  | none => stop (.exit unshownCode)

/-- A marked-up text set in lines of a terminal. -/
def inLines (terminal : Nat) (text : Text) : Act σ Text := do
  return ended (setLines terminal .fold .natural (← shown text))

/-- Shows a marked-up text. -/
def say (terminal : Nat) (text : Text) : Act σ Unit := do write (← inLines terminal text)

/-- Shows a marked-up text in a style. -/
def sayIn (terminal : Nat) (style text : Text) : Act σ Unit :=
  say terminal ('[' :: style ++ ']' :: text ++ '[' :: '/' :: style ++ [']'])

/-- Shows a marked-up text as an error. -/
def error (terminal : Nat) (text : Text) : Act σ Unit := do
  complain (← inLines terminal ("Error: ".toList ++ text))

/-- Shows a marked-up text as a warning. -/
def warn (terminal : Nat) (text : Text) : Act σ Unit := do
  complain (← inLines terminal ("Warning: ".toList ++ text))

/-- Shows a table whose title and cells are marked up. -/
def table (terminal : Nat) (t : Table) : Act σ Unit := do
  let rows ← t.rows.mapM fun row => row.mapM shown
  let title ← shown t.title
  write (ended ({ t with rows, title }.lines terminal))

/-- Writes data. -/
def data (fields : List (Text × Value)) : Act σ Unit :=
  write (Json.page (.table fields) ++ ['\n'])

/-- Puts a text into a file. -/
def save (path text : Text) : Act σ Unit := do
  match (← get).workspace.write path text with
  | .ok workspace =>
    modify fun s => { s with workspace, saved := s.saved ++ [(path, text)] }
  | .error cause => stop (.crash (.file ⟨path, cause⟩))

/-- Asks the indexer. -/
def ask {α : Type} (question : StateM σ α) : Act σ α := do
  let s ← get
  let (answer, service) := question.run s.service
  set { s with service }
  return answer

end Act

end ImpactGraph.CommandLine
