import ImpactGraph.CommandLine.Grammar
import ImpactGraph.Text.Quoted

/-!
# Misuse

What can be wrong with a command line, and what is said about it: the usage of the
command, where to find help, and the cause.
-/

namespace ImpactGraph.CommandLine

open Text

/-- What is wrong with the value of an option. -/
inductive ValueFault where
  | notAmong (words : List Text)
  | notInteger
  /-- There is nothing at the path; what should be there is named. -/
  | missing (what : Text)
  | isFile (what : Text)
  | isDirectory (what : Text)
  | notReadable (what : Text)
  deriving DecidableEq, Repr

/-- What is said about a value. -/
def ValueFault.message (value : Text) : ValueFault → Text
  | notAmong words =>
    quoted value ++ " is not one of ".toList ++
      join ", ".toList (words.map quoted) ++ ['.']
  | notInteger => quoted value ++ " is not a valid integer.".toList
  | missing what => what ++ ' ' :: quoted value ++ " does not exist.".toList
  | isFile what => what ++ ' ' :: quoted value ++ " is a file.".toList
  | isDirectory what => what ++ ' ' :: quoted value ++ " is a directory.".toList
  | notReadable what => what ++ ' ' :: quoted value ++ " is not readable.".toList

/-- What is wrong with a command line. -/
inductive Misuse where
  | unknownOption (name : Text) (similar : List Text)
  | needsValue (name : Text)
  | takesNoValue (name : Text)
  | badValue (option : OptionSpec) (value : Text) (fault : ValueFault)
  | missingOperand (placeholder : Text)
  | extraOperands (operands : List Text)
  | missingCommand
  | unknownCommand (name : Text) (similar : List Text)
  deriving DecidableEq, Repr

namespace Misuse

/-- What is proposed in the place of an unknown name. -/
def proposal : List Text → Text
  | [] => []
  | [name] => " Did you mean ".toList ++ quoted name ++ ['?']
  | names =>
    " (Did you mean one of: ".toList ++ join ", ".toList (names.map quoted) ++ "?)".toList

/-- What is said about a command line. -/
def message : Misuse → Text
  | unknownOption name similar =>
    "No such option ".toList ++ quoted name ++ '.' :: proposal similar
  | needsValue name => "Option ".toList ++ quoted name ++ " requires an argument.".toList
  | takesNoValue name =>
    "Option ".toList ++ quoted name ++ " does not take a value.".toList
  | badValue option value fault =>
    "Invalid value for ".toList ++
      join " / ".toList (option.names.map fun name => '\'' :: name ++ ['\'']) ++
        ": ".toList ++
      fault.message value
  | missingOperand placeholder =>
    "Missing argument '".toList ++ placeholder ++ "'.".toList
  | extraOperands operands =>
    "Got unexpected extra argument".toList ++
      (if operands.length = 1 then " (" else "s (").toList ++
      join [' '] operands ++ [')']
  | missingCommand => "Missing command.".toList
  | unknownCommand name similar =>
    "No such command ".toList ++ quoted name ++ '.' :: proposal similar

/-- The page that is shown for a misuse of the command that is called as `usage` says. -/
def page (usage path : Text) (misuse : Misuse) : Text :=
  "Usage: ".toList ++ usage ++ "\nTry '".toList ++ path ++
    " --help' for help.\n\nError: ".toList ++
    misuse.message ++ ['\n']

end Misuse

end ImpactGraph.CommandLine
