import ImpactGraph.Text.Basic

/-!
# Globs

A glob describes a file name: a star stands for any run of characters, a question mark for
any one, and a set in brackets for one of its members, or one that is no member when the
set begins with an exclamation mark. A bracket that is not closed stands for itself, and
so does a closing bracket that is the first member. A range whose ends are the wrong way
round has no members, and its ends are not members either.
-/

namespace ImpactGraph

/-- One part of a glob. -/
inductive Glob.Part where
  | anyRun
  | anyOne
  | set (negated : Bool) (ranges : List (Char × Char))
  | literal (c : Char)
  deriving DecidableEq, Repr

namespace Glob

/-- Splits the members of a set at the hyphens that make ranges. A hyphen makes a range
when it is not the first member, and not one of the two members after such a hyphen.
`wait` counts the members that are passed before a hyphen counts again. -/
def chunks (wait : Nat) : Text → List Text
  | [] => [[]]
  | c :: rest =>
    if c = '-' && wait = 0 then [] :: chunks 2 rest
    else
      match chunks (wait - 1) rest with
      | [] => [[c]]
      | chunk :: more => (c :: chunk) :: more

/-- A hyphen at the end makes no range: it is the last member. -/
def closeRange : List Text → List Text
  | [] => []
  | [chunk, []] => [chunk ++ ['-']]
  | chunk :: more => chunk :: closeRange more

/-- Leaves out the ranges whose ends are the wrong way round. -/
def dropEmptyRanges : List Text → List Text
  | [] => []
  | chunk :: more =>
    match chunk.getLast?, dropEmptyRanges more with
    | some low, (high :: next) :: others =>
      if high < low then (chunk.dropLast ++ next) :: others else
        chunk :: (high :: next) :: others
    | _, others => chunk :: others

/-- The ranges of the chunks of a set: the ends of neighbouring chunks make a range, and
every other character stands for itself. -/
def rangesOf : List Text → List (Char × Char)
  | [] => []
  | [chunk] => chunk.map fun c => (c, c)
  | chunk :: (high :: next) :: others =>
    match chunk.getLast? with
    | some low =>
      (chunk.dropLast.map fun c => (c, c)) ++ (low, high) :: rangesOf (next :: others)
    | none => ('-', '-') :: rangesOf ((high :: next) :: others)
  | chunk :: [] :: others => (chunk.map fun c => (c, c)) ++ rangesOf others
termination_by chunks => chunks.flatten.length + chunks.length
decreasing_by all_goals (simp; try omega)

/-- A set from the text between its brackets. -/
def setOf (text : Text) : Part :=
  let chunks :=
    dropEmptyRanges (closeRange (chunks (if text.head? = some '!' then 2 else 1) text))
  match chunks with
  | ('!' :: first) :: others => .set true (rangesOf (first :: others))
  | _ => .set false (rangesOf chunks)

/-- The members of a set that starts here, and the text after its closing bracket; none
when the bracket is not closed. -/
def setBody? (text : Text) : Option (Text × Text) :=
  let mark := if text.head? = some '!' then 1 else 0
  let first := if (text.drop mark).head? = some ']' then mark + 1 else mark
  (Text.cut [']'] (text.drop first)).map fun parts =>
    (text.take first ++ parts.1, parts.2)

/-- The parts of a glob. -/
def parse (text : Text) : List Part :=
  match text with
  | [] => []
  | c :: rest =>
    if c = '*' then .anyRun :: parse rest
    else if c = '?' then .anyOne :: parse rest
    else if c = '[' then
      match setBody? rest with
      | some (body, after) =>
        setOf body :: (if _h : after.length < rest.length + 1 then parse after else [])
      | none => .literal c :: parse rest
    else .literal c :: parse rest
termination_by text.length

/-- What may be left of a text, from all of it to nothing. -/
def leftOf : Text → List Text
  | [] => [[]]
  | c :: rest => (c :: rest) :: leftOf rest

/-- What is left of texts after a first character that satisfies a test. -/
def afterOne (test : Char → Bool) (texts : List Text) : List Text :=
  texts.filterMap fun
    | [] => none
    | c :: rest => if test c then some rest else none

/-- What may be left of texts after one part of a glob. The texts are ends of one text,
the longest first, and so are those that are left: what a run leaves of the longest it
leaves of them all. -/
def Part.after : Part → List Text → List Text
  | .anyRun, [] => []
  | .anyRun, longest :: _ => leftOf longest
  | .anyOne, texts => afterOne (fun _ => true) texts
  | .literal c, texts => afterOne (· = c) texts
  | .set negated ranges, texts =>
    afterOne (fun c => (ranges.any fun r => r.1 ≤ c && c ≤ r.2) != negated) texts

/-- Whether a glob describes a file name: after its parts nothing may be left. -/
def describes (glob name : Text) : Bool :=
  decide ([] ∈ (parse glob).foldl (fun texts part => part.after texts) [name])

end Glob

end ImpactGraph
