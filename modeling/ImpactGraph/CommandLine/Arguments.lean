import ImpactGraph.CommandLine.Misuse
import ImpactGraph.CommandLine.Similar
import ImpactGraph.FileTree
import ImpactGraph.Text.Digit

/-!
# Arguments

Reading the words of a command line. First options and operands are told apart, from the
left, without a look at any value. Then help and version are answered before anything else
is checked, and the values are checked in the order in which their options were first
given. An option that is given more than once has its last value.
-/

namespace ImpactGraph.CommandLine

open Text

/-- An option as it was given; a flag has an empty value. -/
structure Given where
  option : OptionSpec
  value : Text

/-- Words told apart: the options that were given, and the operands. -/
structure Sorted where
  given : List Given := []
  operands : List Text := []

namespace Sorted

/-- Options in front of those that were told apart already. -/
def after (given : List Given) (s : Sorted) : Sorted :=
  { s with given := given ++ s.given }

/-- An operand in front of those that were told apart already. -/
def withOperand (word : Text) (s : Sorted) : Sorted :=
  { s with operands := word :: s.operands }

end Sorted

/-- What one word with options holds: the options that are complete, and perhaps one that
takes the next word as its value, by the name it was given under. -/
structure Word where
  given : List Given := []
  waiting : Option (Text × OptionSpec) := none

/-- A run of letters, each of them an option; the first that takes a value takes the rest
of the run, or the next word when nothing is left. -/
def readLetters (options : List OptionSpec) : Text → Except Misuse Word
  | [] => .ok {}
  | c :: rest =>
    match options.find? (·.letter = some c) with
    | none => .error (.unknownOption ['-', c] [])
    | some o =>
      if o.isFlag then
        (readLetters options rest).map fun word =>
          { word with given := ⟨o, []⟩ :: word.given }
      else if rest = [] then .ok { waiting := some (['-', c], o) }
      else .ok { given := [⟨o, rest⟩] }

/-- A word that starts with a hyphen: an option by its full name, with or without a value
after an equals sign, or else a run of letters. -/
def readWord (options : List OptionSpec) (word : Text) : Except Misuse Word :=
  let name := before ['='] word
  let value := (cut ['='] word).map (·.2)
  match options.find? (·.name = name), value with
  | some o, none =>
    .ok (if o.isFlag then { given := [⟨o, []⟩] } else { waiting := some (name, o) })
  | some o, some value =>
    if o.isFlag then .error (.takesNoValue name) else .ok { given := [⟨o, value⟩] }
  | none, _ =>
    if startsWith word ['-', '-'] then
      .error (.unknownOption name (similar (options.map (·.name)) name))
    else readLetters options word.tail

/-- Whether a word holds options. -/
def holdsOptions (word : Text) : Bool := word.head? = some '-' && 1 < word.length

/-- Words told apart. After two hyphens all words are operands, and when operands may not
stand before options, so are all words after the first operand. -/
def sortWords (options : List OptionSpec) (mixed : Bool) :
    List Text → Except Misuse Sorted
  | [] => .ok {}
  | word :: rest =>
    if word = ['-', '-'] then .ok { operands := rest }
    else if holdsOptions word then
      match readWord options word, rest with
      | .error misuse, _ => .error misuse
      | .ok ⟨given, none⟩, rest => (sortWords options mixed rest).map (.after given)
      | .ok ⟨_, some (name, _)⟩, [] => .error (.needsValue name)
      | .ok ⟨given, some (_, option)⟩, value :: rest =>
        (sortWords options mixed rest).map (.after (given ++ [⟨option, value⟩]))
    else if mixed then (sortWords options mixed rest).map (.withOperand word)
    else .ok { operands := word :: rest }

/-- The value of an option, checked. -/
inductive Reading where
  | present
  | text (t : Text)
  | integer (n : Int)
  deriving DecidableEq, Repr

/-- What a path leads to, checked against what an option wants. -/
def checkPath (w : Workspace) (path : Text) : ValueKind → Except ValueFault Reading
  | .directory =>
    match w.lookup path with
    | .error _ => .error (.missing "Directory".toList)
    | .ok place =>
      if place.here.isFile then .error (.isFile "Directory".toList) else
        .ok (.text (Path.tidy path))
  | kind =>
    match w.lookup path with
    | .error _ =>
      if kind = .file then .error (.missing "File".toList) else
        .ok (.text (Path.tidy path))
    | .ok ⟨_, .directory _⟩ => .error (.isDirectory "File".toList)
    | .ok ⟨_, .closed⟩ => .error (.notReadable "File".toList)
    | .ok ⟨_, .file _⟩ | .ok ⟨_, .special _⟩ => .ok (.text (Path.tidy path))

/-- The value of an option, checked. -/
def checkValue (w : Workspace) (value : Text) : ValueKind → Except ValueFault Reading
  | .flag => .ok .present
  | .choice words => if value ∈ words then .ok (.text value) else .error (.notAmong words)
  | .integer =>
    match integer? value with
    | some n => .ok (.integer n)
    | none => .error .notInteger
  | kind => checkPath w value kind

/-- The options that were given, each once with its last value, in the order in which they
first came. -/
def lastValues (given : List Given) : List Given :=
  given.foldl (fun seen g =>
    if seen.any (·.option = g.option) then seen.map fun s =>
      if s.option = g.option then g else s
    else seen ++ [g]) []

/-- The values of options by name. -/
abbrev Readings := List (Text × Reading)

/-- The values of options, checked one after another. -/
def checkAll (w : Workspace) (given : List Given) : Except Misuse Readings :=
  (lastValues given).mapM fun g =>
    match checkValue w g.value g.option.kind with
    | .ok reading => .ok (g.option.name, reading)
    | .error fault => .error (.badValue g.option g.value fault)

namespace Readings

/-- Whether an option was given. -/
def has (r : Readings) (name : String) : Bool := (r.lookup name.toList).isSome

/-- The text that an option was given. -/
def text? (r : Readings) (name : String) : Option Text :=
  match r.lookup name.toList with
  | some (.text t) => some t
  | _ => none

/-- The integer that an option was given. -/
def integer? (r : Readings) (name : String) : Option Int :=
  match r.lookup name.toList with
  | some (.integer n) => some n
  | _ => none

end Readings

/-- What the words of a command line ask for. -/
inductive Request (α : Type) where
  | help
  | version
  | run (arguments : α)

/-- The question, of help and version, that comes first among the options that were
given. -/
def question? {α : Type} (given : List Given) : Option (Request α) :=
  given.findSome? fun g =>
    if g.option = .forHelp then some .help
    else if g.option = .forVersion then some .version
    else none

/-- What was given to a command. -/
structure Arguments where
  readings : Readings
  operands : List Text

/-- The operands of a command: as many as it takes. -/
def checkOperands (c : CommandSpec) (operands : List Text) : Except Misuse Unit :=
  match c.operand with
  | none => if operands = [] then .ok () else .error (.extraOperands operands)
  | some operand =>
    if operand.required && operands = [] then .error (.missingOperand operand.placeholder)
    else if !operand.many && operands.drop 1 ≠ [] then
      .error (.extraOperands (operands.drop 1))
    else .ok ()

/-- What the words after the name of a command ask for. -/
def CommandSpec.read (c : CommandSpec) (w : Workspace) (words : List Text) :
    Except Misuse (Request Arguments) := do
  let sorted ← sortWords c.allOptions true words
  match question? sorted.given with
  | some request => return request
  | none =>
    let readings ← checkAll w sorted.given
    checkOperands c sorted.operands
    return .run ⟨readings, sorted.operands⟩

/-- What the words after the name of a program ask for: its options, and the words of a
command. -/
def ProgramSpec.read (p : ProgramSpec) (w : Workspace) (words : List Text) :
    Except Misuse (Request Arguments) := do
  let sorted ← sortWords p.allOptions false words
  match question? sorted.given with
  | some request => return request
  | none => return .run ⟨← checkAll w sorted.given, sorted.operands⟩

end ImpactGraph.CommandLine
