import ImpactGraph.Facts.Written

/-!
# Outcomes

How the extraction of one file ended: with its facts or an error, from which source, and
why the indexer was not the source when it had been asked.
-/

namespace ImpactGraph

/-- Where facts come from. -/
inductive Backend where
  | local
  | indexer
  deriving DecidableEq, Repr

/-- The name of a source of facts. -/
def Backend.name : Backend → Text
  | .local => "local".toList
  | .indexer => "indexer".toList

/-- How the extraction of one file ended. -/
structure Outcome where
  path : Text
  language : Option Text
  facts : Option FileFacts := none
  error : Option Text := none
  backend : Backend := .local
  fallbackReason : Option Text := none

namespace Outcome

/-- Whether there are facts and no error. -/
def success (o : Outcome) : Bool := o.facts.isSome && o.error.isNone

/-- Whether the indexer was asked in vain. -/
def fellBack (o : Outcome) : Bool := o.fallbackReason.isSome

/-- The fields that every outcome has. -/
def mainFields (o : Outcome) : List (Text × Value) :=
  [("path".toList, .text o.path), ("language".toList, .ofText? o.language),
    ("success".toList, .bool o.success), ("backend".toList, .text o.backend.name)]

/-- A field for a text that is there and not empty. -/
def textField (name : String) (t : Option Text) : List (Text × Value) :=
  match t with
  | some (c :: rest) => [(name.toList, .text (c :: rest))]
  | _ => []

/-- An outcome as a table. -/
def toValue (o : Outcome) : Value :=
  .table (o.mainFields ++
    (match o.facts with
      | some facts => [("node".toList, facts.toValue)]
      | none => []) ++
    textField "error" o.error ++ textField "fallback_reason" o.fallbackReason)

end Outcome

end ImpactGraph
