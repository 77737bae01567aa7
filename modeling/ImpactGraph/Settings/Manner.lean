import ImpactGraph.Text.LowerCase
import ImpactGraph.Value

/-!
# How variables are read

The library that the program runs with reads variables in a manner: what their names start
with, what parts the name of a section from that of its field, and which values count. A
settings file may ask for another manner, by keys of its own that start with a low line.
Such a key is no setting, and a value that makes no sense for it asks for nothing.
-/

namespace ImpactGraph

open Text

/-- How the variables of an environment are read. -/
structure Manner where
  /-- What the name of every variable that is a setting starts with. -/
  start : Text := "DEPSCOPE_".toList
  /-- What stands between the names of a section and of its field; nothing when fields
  have no variables of their own. -/
  mark : Text := "__".toList
  /-- How many parts the name below a section has at most. -/
  mostParts : Option Nat := none
  /-- Whether the case of letters in names matters. -/
  exactCase : Bool := false
  /-- Whether empty variables are passed over. -/
  skipsEmpty : Bool := false
  /-- The word for no value at all, if there is one. -/
  nothing : Option Text := none

namespace Manner

/-- Whether a value says yes: all do but null, no, zero and what is empty. -/
def saysYes : Value → Bool
  | .null => false
  | .bool b => b
  | .int n => n ≠ 0
  | .float (.finite _ significand _) => significand ≠ 0
  | .float _ => true
  | .text t => t ≠ []
  | .moment => true
  | .list items => !items.isEmpty
  | .table fields => !fields.isEmpty

/-- The manner that the fields of a settings file ask for. -/
def ofFields (fields : List (Text × Value)) : Manner :=
  let usual : Manner := {}
  let asked (name : String) : Option Value := fields.lookup name.toList
  { start := match asked "_env_prefix" with
      | some (.text t) => t
      | _ => usual.start
    mark := match asked "_env_nested_delimiter" with
      | none | some .null => usual.mark
      | some (.text t) => t
      | some _ => []
    mostParts := match asked "_env_nested_max_split" with
      | some (.int n) => if 0 < n then some n.toNat else none
      | some (.bool true) => some 1
      | _ => none
    exactCase := (asked "_case_sensitive").any saysYes
    skipsEmpty := (asked "_env_ignore_empty").any saysYes
    nothing := match asked "_env_parse_none_str" with
      | some (.text t) => some t
      | _ => none }

/-- A name as it is compared with others. -/
def fold (m : Manner) (name : Text) : Text := if m.exactCase then name else lower name

/-- The name of the variable of a setting, as it is compared with others. -/
def variableOf (m : Manner) (name : Text) : Text := m.fold (m.start ++ name)

/-- A text cut at separators, with no more than so many cuts, from the left. -/
def cutAtMost (mark : Text) : Nat → Text → List Text
  | 0, t => [t]
  | n + 1, t =>
    match cut mark t with
    | some (first, rest) => first :: cutAtMost mark n rest
    | none => [t]

/-- The parts of a name below a section. -/
def parts (m : Manner) (name : Text) : List Text :=
  match m.mostParts with
  | none => splitAtText m.mark name
  | some n => cutAtMost m.mark (n - 1) name

/-- Whether a value is the word for no value. -/
def isNothing (m : Manner) (value : Text) : Bool := m.nothing = some value

/-- The value of a variable. -/
def valueOf (m : Manner) (value : Text) : Value :=
  if m.isNothing value then .null else .text value

end Manner

end ImpactGraph
