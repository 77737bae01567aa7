import ImpactGraph.Text.Word
import ImpactGraph.Text.Blank

/-!
# Patterns

Declarations are found in source text by patterns: characters of a class, runs of them,
choices in order of preference, and parts that are kept. A pattern is given its meaning by
the list of all the places where a match from a given place may end, the preferred one
first. The match is the first of that list; what follows in a pattern may only be
satisfied by a later one, and the list says which comes next. A greedy run prefers more
characters, a reluctant run fewer.

The meaning is a list, not a search: what a pattern finds can be computed part by part, by
the laws of `List.flatMap`.
-/

namespace ImpactGraph

/-- The parts of a declaration that patterns keep. -/
inductive Slot where
  | typeOnly
  | isStatic
  | clause
  | renamed
  | name
  | quote
  | source
  | wildcard
  deriving DecidableEq, Repr

/-- A kept part: where it starts, what is left of the text there, and how long the part
is. -/
structure Capture where
  start : Nat
  rest : Text
  length : Nat
  deriving DecidableEq, Repr

/-- The text of a kept part. It is only cut out when it is asked for, since most ways that
a pattern tries lead nowhere. -/
def Capture.text (c : Capture) : Text := c.rest.take c.length

/-- A place in a text: the character before it, how many came before, what is left, and
the parts kept on the way, the latest first. -/
structure Cursor where
  before : Option Char
  offset : Nat
  rest : Text
  kept : List (Slot × Capture)
  deriving DecidableEq, Repr

/-- What to look for. -/
inductive Pattern where
  /-- Exactly this text. -/
  | text (t : Text)
  /-- One character of a class. -/
  | one (p : Char → Bool)
  /-- A run of characters of a class, as long as possible. -/
  | many (p : Char → Bool)
  /-- A run of characters of a class, as short as possible. -/
  | few (p : Char → Bool)
  /-- One pattern after another. -/
  | append (p q : Pattern)
  /-- The first pattern, or else the second. -/
  | orElse (p q : Pattern)
  /-- A pattern any number of times, as often as possible. -/
  | iterate (p : Pattern)
  /-- A pattern whose text is kept. -/
  | keep (slot : Slot) (p : Pattern)
  /-- The text that was kept, once more. -/
  | again (slot : Slot)
  /-- A place with a word character on one side only. -/
  | boundary
  /-- The beginning of a line. -/
  | lineStart
  /-- The end of a line. -/
  | lineEnd
  /-- A place that does not follow a character of a class. -/
  | notAfter (p : Char → Bool)

namespace Pattern

instance : Append Pattern := ⟨append⟩

/-- A pattern that may be left out. -/
def optional (p : Pattern) : Pattern := orElse p (text [])

/-- The first of several patterns that leads to a match. -/
def anyOf : List Pattern → Pattern
  | [] => one fun _ => false
  | [p] => p
  | p :: ps => orElse p (anyOf ps)

/-- A run of at least one character of a class, as long as possible. -/
def many1 (p : Char → Bool) : Pattern := one p ++ many p

/-- A word of the language. -/
def word (s : String) : Pattern := text s.toList

/-- The first of several words that leads to a match. -/
def anyWord (words : List String) : Pattern := anyOf (words.map word)

end Pattern

namespace Cursor

/-- The beginning of a text. -/
def ofText (t : Text) : Cursor := ⟨none, 0, t, []⟩

/-- The place after the next character. -/
def next (c : Cursor) : Cursor :=
  match c.rest with
  | [] => c
  | d :: rest => { c with before := some d, offset := c.offset + 1, rest := rest }

/-- The place after a number of characters. -/
def skip (c : Cursor) : Nat → Cursor
  | 0 => c
  | n + 1 => c.next.skip n

/-- The places along a run of characters of a class, nearest first. -/
def along (p : Char → Bool) (before : Option Char) (offset : Nat)
    (kept : List (Slot × Capture)) :
    Text → List Cursor
  | [] => [⟨before, offset, [], kept⟩]
  | d :: rest =>
    ⟨before, offset, d :: rest, kept⟩ ::
      (if p d then along p (some d) (offset + 1) kept rest else [])

/-- The places along the run of characters of a class that starts here, nearest first. -/
def run (p : Char → Bool) (c : Cursor) : List Cursor :=
  along p c.before c.offset c.kept c.rest

/-- The text between two places. -/
def between (c d : Cursor) : Text := c.rest.take (d.offset - c.offset)

/-- The text kept in a slot. -/
def kept? (c : Cursor) (slot : Slot) : Option Capture := c.kept.lookup slot

/-- Whether a word ends or begins here. -/
def atBoundary (c : Cursor) : Bool :=
  (c.before.any Text.isWord) != (c.rest.head?.any Text.isWord)

end Cursor

namespace Pattern

/-- All places reached by steps taken as often as possible, the farthest first. Steps that
stay where they are end the repetition. -/
def closure (step : Cursor → List Cursor) (c : Cursor) : List Cursor :=
  ((step c).flatMap fun d =>
    if _h : d.rest.length < c.rest.length then closure step d else []) ++ [c]
termination_by c.rest.length

/-- The places where a match from here may end, the preferred one first. -/
def ends : Pattern → Cursor → List Cursor
  | text t, c => if t.isPrefixOf c.rest then [c.skip t.length] else []
  | one p, c => if c.rest.head?.any p then [c.next] else []
  | many p, c => (c.run p).reverse
  | few p, c => c.run p
  | append p q, c => (ends p c).flatMap (ends q)
  | orElse p q, c => ends p c ++ ends q c
  | iterate p, c => closure (ends p) c
  | keep slot p, c =>
    (ends p c).map fun d =>
      { d with kept := (slot, ⟨c.offset, c.rest, d.offset - c.offset⟩) :: d.kept }
  | again slot, c =>
    match c.kept? slot with
    | some capture =>
      if capture.text.isPrefixOf c.rest then [c.skip capture.text.length] else []
    | none => []
  | boundary, c => if c.atBoundary then [c] else []
  | lineStart, c => if c.before.all (· = '\n') then [c] else []
  | lineEnd, c => if c.rest.head?.all (· = '\n') then [c] else []
  | notAfter p, c => if c.before.any p then [] else [c]

end Pattern

/-- A match: where it starts, its text, and the parts it kept. -/
structure Match where
  start : Nat
  text : Text
  kept : List (Slot × Capture)
  deriving DecidableEq, Repr

namespace Match

/-- The kept part of a slot, when the match took a way through it. -/
def part? (m : Match) (slot : Slot) : Option Text := (m.kept.lookup slot).map (·.text)

/-- The kept part of a slot, empty when the match took no way through it. -/
def part (m : Match) (slot : Slot) : Text := (m.part? slot).getD []

/-- Where the kept part of a slot starts. -/
def startOf (m : Match) (slot : Slot) : Nat :=
  ((m.kept.lookup slot).map (·.start)).getD m.start

end Match

namespace Pattern

/-- The preferred match that starts here. -/
def matchAt (p : Pattern) (c : Cursor) : Option Match :=
  ((p.ends { c with kept := [] }).head?).map fun d => ⟨c.offset, c.between d, d.kept⟩

/-- The matches in a text from a place on, leftmost first, none of which overlap. The next
`wait` characters belong to the match before. -/
def findFrom (p : Pattern) (before : Option Char) (offset wait : Nat) : Text → List Match
  | [] => if wait = 0 then (p.matchAt ⟨before, offset, [], []⟩).toList else []
  | c :: rest =>
    match wait with
    | wait + 1 => findFrom p (some c) (offset + 1) wait rest
    | 0 =>
      match p.matchAt ⟨before, offset, c :: rest, []⟩ with
      | some m => m :: findFrom p (some c) (offset + 1) (m.text.length - 1) rest
      | none => findFrom p (some c) (offset + 1) 0 rest

/-- The matches in a text, leftmost first, none of which overlap. -/
def findAll (p : Pattern) (t : Text) : List Match := p.findFrom none 0 0 t

/-- The leftmost match in a text. -/
def find? (p : Pattern) (t : Text) : Option Match := (p.findAll t).head?

end Pattern

end ImpactGraph
