import ImpactGraph.Value

/-!
# Checked data

Data from outside is checked field by field. A check gives a value or the list of all
faults, each with the way to it; two checks side by side report the faults of both, in
order.
-/

namespace ImpactGraph.Lenient

/-- Why a value does not fit its field. -/
inductive Misfit where
  | missing
  | text
  | integer
  | integerText
  | integerSize
  | fraction
  | finite
  | number
  | numberText
  | boolean
  | booleanText
  | list
  | table
  | choice
  | tooSmall
  deriving DecidableEq, Repr

/-- The name a misfit is reported under. -/
def Misfit.name : Misfit → Text
  | missing => "missing".toList
  | text => "string_type".toList
  | integer => "int_type".toList
  | integerText => "int_parsing".toList
  | integerSize => "int_parsing_size".toList
  | fraction => "int_from_float".toList
  | finite => "finite_number".toList
  | number => "float_type".toList
  | numberText => "float_parsing".toList
  | boolean => "bool_type".toList
  | booleanText => "bool_parsing".toList
  | list => "list_type".toList
  | table => "model_type".toList
  | choice => "literal_error".toList
  | tooSmall => "greater_than_equal".toList

/-- One step of the way to a value. -/
inductive Step where
  | field (name : Text)
  | item (index : Nat)
  deriving DecidableEq, Repr

/-- A fault: the way to the value, and why it does not fit. -/
structure Fault where
  way : List Step
  misfit : Misfit
  deriving DecidableEq, Repr

/-- A value that was checked, or all of its faults. -/
def Checked (α : Type) : Type := Except (List Fault) α

namespace Checked

variable {α β : Type}

/-- A value without faults. -/
def ok (a : α) : Checked α := Except.ok a

/-- A single fault at the value itself. -/
def fault (misfit : Misfit) : Checked α := Except.error [⟨[], misfit⟩]

/-- A function and its argument checked side by side. -/
def apply (f : Checked (α → β)) (a : Checked α) : Checked β :=
  match f, a with
  | .ok f, .ok a => .ok (f a)
  | .ok _, .error faults => .error faults
  | .error faults, .ok _ => .error faults
  | .error first, .error second => .error (first ++ second)

/-- A checked value under a function. -/
def map (f : α → β) (a : Checked α) : Checked β := apply (ok f) a

/-- A further check of a value that passed. -/
def bind (a : Checked α) (f : α → Checked β) : Checked β := Except.bind a f

/-- The faults of a value seen from one step further up. -/
def under (step : Step) (a : Checked α) : Checked α :=
  Except.mapError (fun faults => faults.map fun f => { f with way := step :: f.way }) a

/-- Items checked side by side, from a position on. -/
def items (check : Value → Checked α) (index : Nat) : List Value → Checked (List α)
  | [] => ok []
  | v :: vs =>
    apply (map List.cons (under (.item index) (check v))) (items check (index + 1) vs)

instance : Functor Checked := ⟨map, fun a => map fun _ => a⟩

instance : Applicative Checked where
  pure := ok
  seq f a := apply f (a ())

end Checked

end ImpactGraph.Lenient
