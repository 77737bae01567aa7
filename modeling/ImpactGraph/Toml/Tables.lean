import ImpactGraph.Value

/-!
# Tables under construction

The rules of a settings file say which tables may be opened again and which may be added
to. A key carries marks: a table that was declared by its header or made by a dotted key
is not declared again, and what an array or an inline table holds is closed for good, with
all below it. The marks of a dotted key start to count with the next header.
-/

namespace ImpactGraph.Toml

/-- A key: the way to a value through nested tables. -/
abbrev Key := List Text

/-- The marks of a document: keys that are declared, and keys that are closed with all
below them. -/
structure Marks where
  declared : List Key := []
  closed : List Key := []
  /-- Keys that are declared from the next header on. -/
  pending : List Key := []

namespace Marks

/-- Whether a key is closed, by itself or by one above it. -/
def isClosed (m : Marks) (key : Key) : Bool := key ≠ [] && m.closed.any (·.isPrefixOf key)

/-- Whether a key is declared. -/
def isDeclared (m : Marks) (key : Key) : Bool := key ∈ m.declared

/-- The marks with the pending ones in force. -/
def settle (m : Marks) : Marks :=
  { m with declared := m.declared ++ m.pending, pending := [] }

/-- The marks without those of a key and of all keys below it. -/
def forget (m : Marks) (key : Key) : Marks :=
  { m with
    declared := m.declared.filter fun k => !key.isPrefixOf k
    closed := m.closed.filter fun k => !key.isPrefixOf k }

/-- The marks with a declared key. -/
def declare (m : Marks) (key : Key) : Marks := { m with declared := m.declared ++ [key] }

/-- The marks with a closed key. -/
def close (m : Marks) (key : Key) : Marks := { m with closed := m.closed ++ [key] }

end Marks

/-- The fields of a table. -/
abbrev Fields := List (Text × Value)

/-- Changes the table at a key. Tables that are missing on the way are made. With `lists`,
a list stands for its last item. There is no answer when something on the way is no
table. -/
def changeAt (lists : Bool) (change : Fields → Option Fields) :
    Key → Fields → Option Fields
  | [], fields => change fields
  | name :: key, fields =>
    match fields.lookup name with
    | none => (changeAt lists change key []).map fun inner =>
        Value.setField fields name (.table inner)
    | some (.table inner) => (changeAt lists change key inner).map fun inner =>
        Value.setField fields name (.table inner)
    | some (.list items) =>
      match lists, items.getLast? with
      | true, some (.table inner) => (changeAt lists change key inner).map fun inner =>
          Value.setField fields name (.list (items.dropLast ++ [.table inner]))
      | _, _ => none
    | some _ => none

/-- A new field at a key; there is no answer when the field is there already. -/
def addField (lists : Bool) (key : Key) (v : Value) (fields : Fields) : Option Fields :=
  changeAt lists (fun inner =>
    let name := key.getLast?.getD []
    if (inner.lookup name).isSome then none else some (inner ++ [(name, v)]))
      key.dropLast fields

/-- A new empty table at the end of the list at a key. -/
def addListItem (key : Key) (fields : Fields) : Option Fields :=
  changeAt true (fun inner =>
    let name := key.getLast?.getD []
    match inner.lookup name with
    | none => some (inner ++ [(name, .list [.table []])])
    | some (.list items) =>
      some (Value.setField inner name (.list (items ++ [.table []])))
    | some _ => none) key.dropLast fields

end ImpactGraph.Toml
