import ImpactGraph.Text.Basic

/-!
# The grammar of a command line

What a command takes: options, each a flag or with one value of some kind, and operands. A
program is a list of commands with options of its own in front of them. Everything that is
said about a command, its help and its usage line, and everything that is read for it
follows from this description.
-/

namespace ImpactGraph.CommandLine

open Text

/-- What the value of an option must be. -/
inductive ValueKind where
  /-- There is no value. -/
  | flag
  | choice (words : List Text)
  | integer
  /-- A directory that exists. -/
  | directory
  /-- A file that exists. -/
  | file
  /-- A file, or a path where there is nothing yet. -/
  | newFile
  deriving DecidableEq, Repr

/-- An option of a command, by its name with two hyphens and perhaps one with a single
letter. -/
structure OptionSpec where
  name : Text
  letter : Option Char := none
  kind : ValueKind := .flag
  help : Text
  deriving DecidableEq, Repr

namespace OptionSpec

/-- Whether an option has no value. -/
def isFlag (o : OptionSpec) : Bool := o.kind = .flag

/-- The names of an option, the full one first. -/
def names (o : OptionSpec) : List Text :=
  o.name :: (o.letter.map fun c => ['-', c]).toList

/-- What stands for the value of an option in its help. -/
def placeholder (o : OptionSpec) : Text :=
  match o.kind with
  | .flag => []
  | .choice words => '[' :: join ['|'] words ++ [']']
  | .integer => "INTEGER".toList
  | .directory => "DIRECTORY".toList
  | .file | .newFile => "FILE".toList

/-- The option that asks for help. -/
def forHelp : OptionSpec :=
  { name := "--help".toList, help := "Show this message and exit.".toList }

/-- The option that asks for the version. -/
def forVersion : OptionSpec :=
  { name := "--version".toList, help := "Show the version and exit.".toList }

end OptionSpec

/-- What a command takes beside options. -/
structure Operand where
  name : Text
  /-- Whether there may be more than one. -/
  many : Bool := false
  required : Bool := true
  deriving DecidableEq, Repr

/-- What stands for the operands in a usage line. -/
def Operand.placeholder (o : Operand) : Text :=
  (if o.required then o.name else '[' :: o.name ++ [']']) ++
    (if o.many then "...".toList else [])

/-- A paragraph of a description. -/
inductive Paragraph where
  /-- Words that fill lines. -/
  | flowing (text : Text)
  /-- Lines that stay as they are. -/
  | verbatim (lines : List Text)
  deriving DecidableEq, Repr

/-- A command. -/
structure CommandSpec where
  name : Text
  /-- What the command does, in one line of the program's help. -/
  summary : Text
  about : List Paragraph
  operand : Option Operand := none
  options : List OptionSpec

/-- The options of a command, with the one that asks for help. -/
def CommandSpec.allOptions (c : CommandSpec) : List OptionSpec := c.options ++ [.forHelp]

/-- A program: commands in titled sections, and the options in front of them. -/
structure ProgramSpec where
  name : Text
  version : Text
  about : List Paragraph
  options : List OptionSpec
  sections : List (Text × List CommandSpec)

namespace ProgramSpec

/-- The options of a program, with those that ask for its version and for help. -/
def allOptions (p : ProgramSpec) : List OptionSpec := p.options ++ [.forVersion, .forHelp]

/-- How a program is called. -/
def usage (p : ProgramSpec) : Text := p.name ++ " [OPTIONS] COMMAND [ARGS]...".toList

/-- The full name of a command. -/
def pathOf (p : ProgramSpec) (c : CommandSpec) : Text := p.name ++ ' ' :: c.name

/-- How a command is called. -/
def usageOf (p : ProgramSpec) (c : CommandSpec) : Text :=
  p.pathOf c ++ " [OPTIONS]".toList ++
    match c.operand with
    | some operand => ' ' :: operand.placeholder
    | none => []

end ProgramSpec

end ImpactGraph.CommandLine
