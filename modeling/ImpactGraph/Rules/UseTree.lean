import ImpactGraph.Text.Blank

/-!
# Use trees

A use tree is a path, or a path followed by a list of use trees in braces. Expanding it
gives one path per leaf, from left to right, each with the prefixes of the groups it
stands in. A group whose braces do not close is dropped. A leaf that ends in `::self`
names the group's own prefix.

The inside of a group is expanded by another call. So groups inside one another take as
many calls at once as they are deep, and an expansion that takes more than the stack holds
gives no paths at all.
-/

namespace ImpactGraph.Rules.UseTree

open Text

/-- How a character changes the depth of braces. -/
def depthAfter (depth : Int) (c : Char) : Int :=
  if c = '{' then depth + 1 else if c = '}' then depth - 1 else depth

/-- The pieces between the commas that stand at depth zero. -/
def splitAtDepth (depth : Int) : Text → List Text
  | [] => [[]]
  | c :: rest =>
    let depth := depthAfter depth c
    if c = ',' && depth = 0 then [] :: splitAtDepth depth rest
    else
      match splitAtDepth depth rest with
      | [] => [[c]]
      | piece :: pieces => (c :: piece) :: pieces

/-- The entries of a list of use trees. -/
def entries (text : Text) : List Text := ((splitAtDepth 0 text).map strip).filter (· ≠ [])

/-- A path without one final `::self`. -/
def dropSelf (path : Text) : Text :=
  if endsWith path "::self".toList then path.take (path.length - 6) else path

/-- What stops an expansion on a stack of calls. -/
inductive Fault where
  /-- A call more than the stack holds. -/
  | tooDeep
  /-- A group that is cut at its last closing brace, where it has none. -/
  | noBrace
  deriving DecidableEq, Repr

/-- What becomes of one entry, when the inside of a group is left to another expansion: a
group goes from its first opening brace to its last closing one, and is dropped when it
does not close. -/
def entryWith (inner : Text → Text → Except Fault (List Text)) (above entry : Text) :
    Except Fault (List Text) :=
  match cut ['{'] entry with
  | none => .ok [dropSelf (above ++ entry)]
  | some (head, rest) =>
    if rest.count '}' < rest.count '{' + 1 then .ok []
    else
      match cutLast ['}'] rest with
      | none => .error .noBrace
      | some (inside, _) => inner inside (above ++ strip head)

/-- The paths of the leaves of a list of use trees, each after the prefix of its group, on
a stack that holds so many calls. -/
def expandWithin : Nat → Text → Text → Except Fault (List Text)
  | 0, _, _ => .error .tooDeep
  | limit + 1, tree, above =>
    ((entries (singleSpaced tree)).mapM (entryWith (expandWithin limit) above)).map
      List.flatten

end ImpactGraph.Rules.UseTree
