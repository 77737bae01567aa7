import ImpactGraph.Text.Blank
import ImpactGraph.Text.Width

/-!
# Wrapping

Text is set in lines of a given width. A line ends where the next word would not fit; the
blanks after a word belong to it and do not count for the question whether it fits. A word
that is wider than a line is folded or, where a line may be cut short, left to stick out
and cut off with an ellipsis.
-/

namespace ImpactGraph.Console

open Text

/-- What happens to a word that is wider than a line. -/
inductive Overflow where
  | fold
  | ellipsis
  deriving DecidableEq, Repr

/-- How a line lies in its width. -/
inductive Alignment where
  /-- At the left, and not filled up. -/
  | natural
  | left
  | center
  | right
  deriving DecidableEq, Repr

/-- The words of a line, each with the blanks after it; the first has those before it too.
A line without words has none. -/
def blankedWords (line : Text) : List Text :=
  let lead := line.takeWhile isBlank
  match cutWords (line.dropWhile isBlank) with
  | [] => []
  | word :: words => (lead ++ word) :: words
where
  /-- The words of a text that starts with none or with a word. -/
  cutWords (text : Text) : List Text :=
    if text = [] then []
    else
      let word := text.takeWhile fun c => !isBlank c
      let rest := text.dropWhile fun c => !isBlank c
      let blanks := rest.takeWhile isBlank
      let next := rest.dropWhile isBlank
      if _h : next.length < text.length then (word ++ blanks) :: cutWords next else [text]
  termination_by text.length

/-- A word in pieces that fit a width; a character wider than that is a piece of its own.
The first piece follows `taken`, which takes `used` columns. -/
def chop (limit : Nat) (taken : Text) (used : Nat) : Text → List Text
  | [] => [taken]
  | c :: rest =>
    if limit < used + width c then taken :: chop limit [c] (width c) rest
    else chop limit (taken ++ [c]) (used + width c) rest

/-- Lines that were filled: those that are full, and the last one with the columns that
count as used. -/
structure Filled where
  done : List Text := []
  last : Text := []
  used : Nat := 0

namespace Filled

/-- A word on the last line. -/
def extend (f : Filled) (word : Text) : Filled :=
  { f with last := f.last ++ word, used := f.used + columns word }

/-- A word on a new line, or on the last one while that is empty. -/
def breakLine (f : Filled) (word : Text) : Filled :=
  ⟨if f.last = [] then f.done else f.done ++ [f.last], word, columns word⟩

/-- One more word. -/
def add (limit : Nat) (overflow : Overflow) (f : Filled) (word : Text) : Filled :=
  let needed := columns (dropWhileEnd isBlank word)
  if f.used + needed ≤ limit then f.extend word
  else if needed ≤ limit then f.breakLine word
  else
    match overflow with
    | .fold => (chop limit [] 0 word).foldl breakLine f
    | .ellipsis => f.breakLine word

end Filled

/-- A line in lines that take a width, as far as its words allow. -/
def fill (limit : Nat) (overflow : Overflow) (line : Text) : List Text :=
  match blankedWords line with
  | [] => [line]
  | words =>
    let filled := words.foldl (Filled.add limit overflow) {}
    filled.done ++ [filled.last]

/-- A line with tabs replaced by spaces up to the next stop; one stop is every eight
columns. -/
def expandTabs (line : Text) : Text :=
  if '\t' ∈ line then
    line.foldl (fun seen c =>
      if c = '\t' then seen ++ List.replicate (8 - columns seen % 8) ' ' else
        seen ++ [c]) []
  else line

/-- A line without blanks at its end as far as it is longer than a width. -/
def dropExcess (limit : Nat) (line : Text) : Text :=
  let blanks := line.length - (dropWhileEnd isBlank line).length
  line.take (line.length - min blanks (line.length - limit))

/-- A line that is no wider than a width. -/
def truncate (limit : Nat) (overflow : Overflow) (line : Text) : Text :=
  if columns line ≤ limit then line
  else
    match overflow with
    | .fold => fit limit line
    | .ellipsis => fit (limit - 1) line ++ ['…']

/-- A line put in its place. An odd column goes to the right of a centred line. -/
def align (limit : Nat) (overflow : Overflow) (alignment : Alignment)
    (line : Text) : Text :=
  match alignment with
  | .natural => truncate limit overflow line
  | .left => padTo limit (truncate limit overflow line)
  | .center =>
    let line := truncate limit overflow (dropWhileEnd isBlank line)
    padTo limit (List.replicate ((limit - columns line) / 2) ' ' ++ line)
  | .right =>
    let line := truncate limit overflow (dropWhileEnd isBlank line)
    List.replicate (limit - columns line) ' ' ++ line

/-- A text in lines of a width. -/
def setLines (limit : Nat) (overflow : Overflow) (alignment : Alignment)
    (text : Text) : List Text :=
  ((split '\n' text).flatMap fun line => fill limit overflow (expandTabs line)).map
    fun line =>
    align limit overflow alignment (dropExcess limit line)

end ImpactGraph.Console
