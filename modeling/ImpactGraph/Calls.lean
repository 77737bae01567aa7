import ImpactGraph.Facts.Basic
import ImpactGraph.Pattern.Basic

/-!
# Calls inside a file

A call site is a name followed by an opening parenthesis that does not continue a word or
a member access. A call counts when its name is known in the file and not imported, and
when the name is not the one being defined there. The caller is the last definition before
the call.
-/

namespace ImpactGraph

open Pattern

/-- A name in front of an opening parenthesis. -/
def callSite : Pattern :=
  notAfter (fun c => isIdentifierPart c || c = '.') ++
  keep .name (one isIdentifierStart ++ many isIdentifierPart) ++
    many Text.isBlank ++ word "("

/-- A name that is defined at an offset. -/
structure Definition where
  offset : Nat
  name : Text
  deriving DecidableEq, Repr

/-- Definitions in the order of their offsets; at one offset, in the order of their
names. -/
def Definition.le (a b : Definition) : Bool :=
  a.offset < b.offset || (a.offset = b.offset && Text.le a.name b.name)

/-- The definitions whose names a pattern keeps, in order. -/
def definitionsOf (p : Pattern) (content : Text) : List Definition :=
  (p.findAll content).map fun m => ⟨m.startOf .name, m.part .name⟩

/-- The name of the last of the definitions that stand before the first one at or past an
offset. -/
def enclosing (definitions : List Definition) (offset : Nat) : Text :=
  match (definitions.takeWhile (·.offset < offset)).getLast? with
  | some definition => definition.name
  | none => "<module>".toList

/-- The calls to names of the file. -/
def callsBetween (content : Text) (definitions : List Definition)
    (known imported : List Text) : List Call :=
  (callSite.findAll content).filterMap fun m =>
    let callee := m.part .name
    if callee ∈ imported || callee ∉ known then none
    else if definitions.any (·.offset = m.startOf .name) then none
    else some ⟨enclosing definitions m.start, callee, lineAt content m.start⟩

end ImpactGraph
