import ImpactGraph.Language
import ImpactGraph.Text.Blank

/-!
# Facts about a file

What the rules of a language find in one file: the symbols it imports and the files they
come from, the names it exports, the files it depends on, and the calls between its own
definitions. Rules report findings in the order of discovery. The facts hold each exported
name and each edge once, at its first finding.
-/

namespace ImpactGraph

/-- How a symbol is brought into a file. -/
inductive ImportKind where
  | default
  | named
  | whole
  | typeOnly
  deriving DecidableEq, Repr

namespace ImportKind

/-- The word a kind of import is reported with. -/
def name : ImportKind → Text
  | default => "default".toList
  | named => "named".toList
  | whole => "namespace".toList
  | typeOnly => "type".toList

/-- The kind of a word. -/
def ofName? (text : Text) : Option ImportKind :=
  [default, named, whole, typeOnly].find? (·.name = text)

end ImportKind

/-- One imported symbol and the file it comes from, which need not exist. -/
structure Import where
  symbol : Text
  target : Text
  kind : ImportKind := .named
  /-- The place the symbol comes from, as it is written. -/
  source : Text := []
  line : Int := 0
  /-- The name the symbol is bound to, when it is another one. -/
  renamed : Option Text := none
  deriving DecidableEq, Repr

namespace Import

/-- The alias, when there is one that is not empty. -/
def renamed? (i : Import) : Option Text := i.renamed.filter (· ≠ [])

/-- The name a symbol is known by in the importing file. -/
def localName (i : Import) : Text := i.renamed?.getD i.symbol

end Import

/-- A call from one definition of a file to another. -/
structure Call where
  caller : Text
  callee : Text
  line : Nat
  deriving DecidableEq, Repr

/-- One thing that a rule finds. -/
inductive Finding where
  | imports (i : Import)
  | dependsOn (target : Text)
  | exports (name : Text)
  deriving DecidableEq, Repr

/-- What is known about one file. -/
structure FileFacts where
  file : Text
  language : Option Language := none
  exports : List Text := []
  imports : List Import := []
  edges : List Text := []
  calls : List Call := []
  deriving DecidableEq, Repr

namespace FileFacts

/-- A name added to the exports; the empty name and names already there are not. -/
def addExport (facts : FileFacts) (name : Text) : FileFacts :=
  if name = [] || name ∈ facts.exports then facts
  else { facts with exports := facts.exports ++ [name] }

/-- An edge added to those already there. -/
def addEdge (facts : FileFacts) (target : Text) : FileFacts :=
  if target ∈ facts.edges then facts else { facts with edges := facts.edges ++ [target] }

/-- A finding taken into the facts. -/
def record (facts : FileFacts) : Finding → FileFacts
  | .imports i => { facts with imports := facts.imports ++ [i] }
  | .dependsOn target => facts.addEdge target
  | .exports name => facts.addExport name

/-- The facts of a file whose findings are given in order. -/
def ofFindings (file : Text) (language : Language)
    (findings : List Finding) : FileFacts :=
  findings.foldl record { file := file, language := some language }

end FileFacts

/-- The number of the line that holds the character at an offset, from one on. -/
def lineAt (content : Text) (offset : Nat) : Nat := (content.take offset).count '\n' + 1

/-- A position in a text of a given length: a negative one counts from the end, and none
lies before the start. -/
def position (length : Nat) (i : Int) : Nat :=
  if i < 0 then (length + i).toNat else i.toNat

/-- Whether a character can start an identifier. -/
def isIdentifierStart (c : Char) : Bool :=
  ('a' ≤ c && c ≤ 'z') || ('A' ≤ c && c ≤ 'Z') || c = '_' || c = '$'

/-- Whether a character can stand in an identifier. -/
def isIdentifierPart (c : Char) : Bool := Text.isWord c || c = '$'

/-- Whether a text is an identifier, not counting one line feed at its end. -/
def isIdentifier (text : Text) : Bool :=
  match (if text.getLast? = some '\n' then text.dropLast else text) with
  | c :: rest => isIdentifierStart c && rest.all isIdentifierPart
  | [] => false

end ImpactGraph
