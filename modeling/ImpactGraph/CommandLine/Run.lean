import ImpactGraph.CommandLine.Commands
import ImpactGraph.CommandLine.Help
import ImpactGraph.CommandLine.Program

/-!
# Runs

A whole run of the program for the words of its command line: its own options, its
settings, and the command. The settings are loaded before the words of the command are
read, so settings that cannot be loaded are told even when help is asked for. A settings
file that is not in its format is told and passed over; everything else that is wrong with
settings stops the run.
-/

namespace ImpactGraph.CommandLine

open Text

variable {σ : Type}

/-- Stops the run for a misuse of what is called as `usage` says. -/
def refuse {α : Type} (usage path : Text) (misuse : Misuse) : Act σ α := do
  Act.complain (misuse.page usage path)
  Act.stop (.exit misuseCode)

/-- Stops the run for a misuse of the program. -/
def refuseProgram {α : Type} (misuse : Misuse) : Act σ α :=
  refuse program.usage program.name misuse

/-- Answers the program's own options; what is left are their values and the words of a
command. -/
def readProgram (terminal : Nat) (words : List Text) : Act σ Arguments := do
  match program.read (← get).workspace words with
  | .error misuse => refuseProgram misuse
  | .ok .help =>
    Act.write (program.help terminal)
    Act.stop (.exit 0)
  | .ok .version =>
    Act.write (program.name ++ ", version ".toList ++ program.version ++ ['\n'])
    Act.stop (.exit 0)
  | .ok (.run a) => return a

/-- Whether a name could be meant as an option. -/
def resemblesOption (name : Text) : Bool :=
  match name with
  | [] => false
  | c :: _ => !(isWord c && c ≠ '_')

/-- The command that the words name, and the words after its name. What is no command and
resembles an option is read as one first. -/
def chooseCommand (terminal : Nat) (words : List Text) : Act σ (Command × List Text) := do
  match words with
  | [] => refuseProgram .missingCommand
  | name :: rest =>
    match Command.ofName? name with
    | some command => return (command, rest)
    | none =>
      if resemblesOption name then
        let _ ← readProgram terminal words
      refuseProgram (.unknownCommand name (similar Command.names name))

/-- The settings of a run; none when their file is not in its format. -/
def loadSettings (s : Surroundings σ) (r : Readings) : Act σ (Option Settings) := do
  match Settings.load s.library (← get).workspace s.home s.env (r.text? "--config") with
  | .ok settings => return some settings
  | .error (.notToml path) =>
    if !r.has "--quiet" then
      Act.error s.terminal ("Failed to load configuration: ".toList ++
        (SettingsError.notToml path).message)
    return none
  | .error e => Act.stop (.crash (.settings e))

/-- What a command does. -/
def Command.run (command : Command) (start : Start σ) (a : Arguments) : Act σ Unit :=
  match command with
  | build => runBuild start a
  | deps => runDeps start a
  | viz => runViz start a
  | impact => runImpact start a
  | init => runInit start a

/-- Runs a command with the words after its name. -/
def runCommand (start : Start σ) (command : Command) (words : List Text) :
    Act σ Unit := do
  let spec := command.spec
  match spec.read (← get).workspace words with
  | .error misuse => refuse (program.usageOf spec) (program.pathOf spec) misuse
  | .ok (.run a) => command.run start a
  | .ok _ => Act.write (program.helpOf start.terminal spec)

/-- All that is done for the words of a command line. -/
def runWords (s : Surroundings σ) (words : List Text) : Act σ Unit := do
  if words = [] then
    Act.complain (program.help s.terminal)
    Act.stop (.exit misuseCode)
  let a ← readProgram s.terminal words
  let (command, rest) ← chooseCommand s.terminal a.operands
  let loaded ← loadSettings s a.readings
  runCommand { s with loaded } command rest

/-- Tells what stopped a run unexpectedly. -/
def tellCrash (terminal : Nat) (debug : Bool) (cause : Crash) : Act σ Unit := do
  Act.error terminal cause.message
  if !debug then Act.say terminal "Run with --debug for full traceback.".toList
  Act.stop (.exit ExitCode.fatal.toNat)

/-- How a run ends: its exit code, and the session it leaves. -/
def ending (r : Except Stop Unit × Session σ) : Nat × Session σ :=
  match r with
  | (.ok (), session) => (0, session)
  | (.error (.exit code), session) => (code, session)
  | (.error (.crash _), session) => (ExitCode.fatal.toNat, session)

/-- Runs the program. -/
def run (s : Surroundings σ) (words : List Text) (session : Session σ) :
    Nat × Session σ :=
  match (runWords s words).run.run session with
  | (.error (.crash cause), session) =>
    ending ((tellCrash s.terminal ("--debug".toList ∈ words) cause).run.run session)
  | other => ending other

end ImpactGraph.CommandLine
