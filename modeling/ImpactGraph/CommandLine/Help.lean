import ImpactGraph.CommandLine.Grammar
import ImpactGraph.Text.Blank
import ImpactGraph.Text.Width

/-!
# Help

The help page of a command and that of a program: how it is called, what it does, and the
list of its options or commands. Descriptions fill lines word by word; lists have two
columns, the first as wide as its widest entry, with a limit beyond which an entry has a
line of its own.
-/

namespace ImpactGraph.CommandLine

open Text

/-- The width of a page in a terminal that has so many columns. -/
def pageWidth (terminal : Nat) : Nat := max (min terminal 80 - 2) 50

/-- Words in lines of a width, each word on the last line as long as it fits there. -/
def flow (limit : Nat) (text : Text) : List Text :=
  let filled := (words text).foldl (fun (done, last) word =>
    if last = [] then (done, word)
    else if columns last + 1 + columns word ≤ limit then (done, last ++ ' ' :: word)
    else (done ++ [last], word)) (([], []) : List Text × Text)
  filled.1 ++ if filled.2 = [] then [] else [filled.2]

/-- A line moved to the right. -/
def indent (n : Nat) (line : Text) : Text := List.replicate n ' ' ++ line

/-- The lines of a paragraph, between empty lines of its own. -/
def Paragraph.lines (limit : Nat) : Paragraph → List Text
  | flowing text => (flow (limit - 2) text).map (indent 2)
  | verbatim given => given.map (indent 2)

/-- The lines of a list of names and what is said about each. -/
def listLines (limit : Nat) (entries : List (Text × Text)) : List Text :=
  let first := min ((entries.map fun e => columns e.1).foldl max 0) 30
  let second := first + 4
  entries.flatMap fun (name, about) =>
    match flow (max (limit - second) 10) about with
    | [] => [indent 2 name]
    | line :: lines =>
      (if columns name ≤ first then [indent 2 (padTo (first + 2) name) ++ line]
        else [indent 2 name, indent second line]) ++
      lines.map (indent second)

/-- A titled list, after an empty line. -/
def titledList (limit : Nat) (title : Text) (entries : List (Text × Text)) : List Text :=
  [[], title ++ [':']] ++ listLines limit entries

/-- An option as help names it: its letter first, and what its value is. -/
def OptionSpec.entry (o : OptionSpec) : Text × Text :=
  let names := join ", ".toList o.names.reverse
  (if o.placeholder = [] then names else names ++ ' ' :: o.placeholder, o.help)

/-- The lines that a page starts with. -/
def opening (limit : Nat) (usage : Text) (about : List Paragraph) : List Text :=
  ("Usage: ".toList ++ usage) :: about.flatMap fun p => [] :: p.lines limit

/-- The help of a command. -/
def ProgramSpec.helpOf (p : ProgramSpec) (terminal : Nat) (c : CommandSpec) : Text :=
  let limit := pageWidth terminal
  ended (opening limit (p.usageOf c) c.about ++
    titledList limit "Options".toList (c.allOptions.map OptionSpec.entry))

/-- The help of a program. -/
def ProgramSpec.help (p : ProgramSpec) (terminal : Nat) : Text :=
  let limit := pageWidth terminal
  ended (opening limit p.usage p.about ++
    titledList limit "Options".toList (p.allOptions.map OptionSpec.entry) ++
    p.sections.flatMap fun (title, commands) =>
      titledList limit title (commands.map fun c => (c.name, c.summary)))

end ImpactGraph.CommandLine
