import ImpactGraph.Glob
import ImpactGraph.Path.Basic

/-!
# Exclusion

Which files are left out. A pattern with a star and a dot is a glob for the last component
of a path. Another pattern with stars is looked for anywhere in the path, its pieces in
order, with no line feed between them. A pattern without a star is a part of the path.
-/

namespace ImpactGraph.Exclusion

open Text

/-- Whether some rest of a text satisfies a test. -/
def later (test : Text → Bool) : Text → Bool
  | [] => test []
  | c :: rest => test (c :: rest) || later test rest

/-- Whether some rest of a text that no line feed stands before satisfies a test. -/
def laterOnLine (test : Text → Bool) : Text → Bool
  | [] => test []
  | c :: rest => test (c :: rest) || (c ≠ '\n' && laterOnLine test rest)

/-- Whether a text starts with the first piece and goes on with the others, in order, with
no line feed between two pieces. -/
def startsWithPieces : List Text → Text → Bool
  | [], _ => true
  | piece :: pieces, text =>
    startsWith text piece &&
      (pieces = [] || laterOnLine (startsWithPieces pieces) (text.drop piece.length))

/-- Whether the pieces occur in a text, in order, with no line feed between two of
them. -/
def holdsPieces (pieces : List Text) (text : Text) : Bool :=
  later (startsWithPieces pieces) text

/-- Whether a pattern excludes a path. -/
def matchesPattern (pattern path : Text) : Bool :=
  if '*' ∈ pattern then
    if '.' ∈ pattern then Glob.describes pattern (Path.baseName path)
    else holdsPieces (split '*' pattern) path
  else decide (pattern ≠ []) && contains pattern path

/-- Whether one of the patterns excludes a path. -/
def excludes (patterns : List Text) (path : Text) : Bool :=
  patterns.any (matchesPattern · path)

end ImpactGraph.Exclusion
