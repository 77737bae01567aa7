import ImpactGraph.Number.Binary64

/-!
# Values

Structured data as it is read from a settings file, an environment variable or a reply of
the indexer, and as it is written in reports. A table keeps its keys in the order they
were first written. Dates and times of settings files are kept apart from all other values
and are not looked into.
-/

namespace ImpactGraph

/-- A piece of structured data. -/
inductive Value where
  | null
  | bool (b : Bool)
  | int (n : Int)
  | float (x : Binary64)
  | text (t : Text)
  | moment
  | list (items : List Value)
  | table (fields : List (Text × Value))

namespace Value

/-- A text given as a literal. -/
def ofString (s : String) : Value := text s.toList

/-- A list of texts. -/
def texts (ts : List Text) : Value := list (ts.map text)

/-- A count. -/
def nat (n : Nat) : Value := int n

/-- A text, or null. -/
def ofText? : Option Text → Value
  | some t => text t
  | none => null

/-- A field of a table; none for other values. -/
def get? (v : Value) (key : Text) : Option Value :=
  match v with
  | table fields => fields.lookup key
  | _ => none

/-- A table with a field set: in its place when the key is there, else at the end. -/
def setField (fields : List (Text × Value)) (key : Text) (v : Value) :
    List (Text × Value) :=
  if fields.any (·.1 = key) then fields.map fun f => if f.1 = key then (key, v) else f
  else fields ++ [(key, v)]

/-- A table made of fields set one after another. -/
def tableOf (fields : List (Text × Value)) : Value :=
  table (fields.foldl (fun fs f => setField fs f.1 f.2) [])

end Value

end ImpactGraph
