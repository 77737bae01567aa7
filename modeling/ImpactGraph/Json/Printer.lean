import ImpactGraph.Text.Quoted
import ImpactGraph.Value

/-!
# Writing JSON

Two layouts: everything on one line, and one entry to a line, indented by two spaces a
level, where empty lists and tables stay closed. Strings hold ASCII only; every other
character is escaped, those beyond the first plane as a pair of surrogates.
-/

namespace ImpactGraph.Json

open Text

/-- One character inside quotes. -/
def escape (c : Char) : Text :=
  if c = '"' then ['\\', '"']
  else if c = '\\' then ['\\', '\\']
  else if c = '\n' then ['\\', 'n']
  else if c = '\r' then ['\\', 'r']
  else if c = '\t' then ['\\', 't']
  else if c.toNat = 8 then ['\\', 'b']
  else if c.toNat = 12 then ['\\', 'f']
  else if 0x20 ≤ c.toNat && c.toNat < 0x7F then [c]
  else if c.toNat < 0x10000 then '\\' :: 'u' :: hex 4 c.toNat
  else
    let n := c.toNat - 0x10000
    '\\' :: 'u' :: hex 4 (0xD800 + n / 0x400) ++ '\\' :: 'u' :: hex 4 (0xDC00 + n % 0x400)

/-- A string in quotes. -/
def quote (t : Text) : Text := '"' :: t.flatMap escape ++ ['"']

/-- A value that holds no others. -/
def scalar : Value → Text
  | .null => "null".toList
  | .bool b => (if b then "true" else "false").toList
  | .int n => ofInt n
  | .float x => x.decimal
  | .text t => quote t
  | .moment => "null".toList
  | .list _ => "[]".toList
  | .table _ => ['{', '}']

mutual

/-- A value on one line. -/
def line : Value → Text
  | .list items => '[' :: lineItems items ++ [']']
  | .table fields => '{' :: lineFields fields ++ ['}']
  | other => scalar other

/-- Items with commas between them. -/
def lineItems : List Value → Text
  | [] => []
  | [item] => line item
  | item :: items => line item ++ ',' :: lineItems items

/-- Fields with commas between them. -/
def lineFields : List (Text × Value) → Text
  | [] => []
  | [(key, v)] => quote key ++ ':' :: line v
  | (key, v) :: fields => quote key ++ ':' :: line v ++ ',' :: lineFields fields

end

/-- A new line at a depth. -/
def newLine (depth : Nat) : Text := '\n' :: List.replicate (2 * depth) ' '

mutual

/-- A value with one entry to a line, below a depth. -/
def pageAt (depth : Nat) : Value → Text
  | .list (item :: items) =>
    '[' :: pageItems (depth + 1) (item :: items) ++ newLine depth ++ [']']
  | .table (field :: fields) =>
    '{' :: pageFields (depth + 1) (field :: fields) ++ newLine depth ++ ['}']
  | other => scalar other

/-- Items on lines of their own. -/
def pageItems (depth : Nat) : List Value → Text
  | [] => []
  | [item] => newLine depth ++ pageAt depth item
  | item :: items => newLine depth ++ pageAt depth item ++ ',' :: pageItems depth items

/-- Fields on lines of their own. -/
def pageFields (depth : Nat) : List (Text × Value) → Text
  | [] => []
  | [(key, v)] => newLine depth ++ quote key ++ ": ".toList ++ pageAt depth v
  | (key, v) :: fields =>
    newLine depth ++ quote key ++ ": ".toList ++ pageAt depth v ++ ',' ::
      pageFields depth fields

end

/-- A value with one entry to a line. -/
def page (v : Value) : Text := pageAt 0 v

end ImpactGraph.Json
