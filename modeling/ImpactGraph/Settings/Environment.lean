import ImpactGraph.Json.Reader
import ImpactGraph.Settings.Library
import ImpactGraph.Settings.Manner

/-!
# Settings of the environment

How the library that the program runs with reads variables. They give settings by name:
the version, a whole section as a JSON object, or one field of a section after a mark. A
field of its own outweighs the same field of the object. Sections, and fields that hold
lists, are read as JSON; an empty field is a text. The names are written in any case, if
the manner does not say otherwise.
-/

namespace ImpactGraph

open Text

namespace Environment

/-- The names of a section's fields, and whether a field holds a list. -/
abbrev SectionShape := List (Text × Bool)

/-- The sections of the settings. -/
def sections : List (Text × SectionShape) :=
  [("analyzer".toList,
      [("include_patterns".toList, true), ("exclude_patterns".toList, true),
        ("max_depth".toList, false), ("analyze_internal".toList, false)]),
    ("indexer".toList,
      [("enabled".toList, false), ("base_url".toList, false),
        ("timeout_seconds".toList, false), ("concurrency".toList, false)]),
    ("visualizer".toList, [("max_nodes".toList, false), ("direction".toList, false)])]

/-- The names of the variables that are settings, as they are compared with others. -/
def names (m : Manner) : List Text :=
  m.variableOf "version".toList :: sections.flatMap fun (name, fields) =>
    m.variableOf name :: fields.map fun field => m.variableOf name ++ m.mark ++ field.1

/-- The variables that count, with their names as they are compared; the last of one name
counts. -/
def folded (m : Manner) (env : Environment) : Environment :=
  (env.filter fun v => !(m.skipsEmpty && v.2 = [])).foldl (fun seen v =>
    let name := m.fold v.1
    if seen.any (·.1 = name) then seen.map fun s => if s.1 = name then (name, v.2) else s
    else seen ++ [(name, v.2)]) []

/-- A table with a value at the end of a way of keys. A value on the way that is no table
stays, and so does a value at its end when the new one is null and `yields` says that it
gives way. -/
def setAt (yields : Bool) : List Text → Value → List (Text × Value) → List (Text × Value)
  | [], _, fields => fields
  | [key], v, fields =>
    match fields.lookup key with
    | none | some (.table []) => Value.setField fields key v
    | some _ => if yields then fields else Value.setField fields key v
  | key :: keys, v, fields =>
    match fields.lookup key with
    | some (.table inner) =>
      Value.setField fields key (.table (setAt yields keys v inner))
    | some _ => fields
    | none => Value.setField fields key (.table (setAt yields keys v []))

/-- Whether a part of a name below a section is that of a field that holds a list. The
field may be named as if it were a setting of its own. -/
def holdsList (m : Manner) (shape : SectionShape) (part : Text) : Bool :=
  match shape.find? fun field => m.fold field.1 = part || m.variableOf field.1 = part with
  | some field => field.2
  | none => false

/-- A table with the value of the variable of a field; none when it should be JSON and is
not. -/
def addVariable? (m : Manner) (shape : SectionShape) (fields : List (Text × Value))
    (keys : List Text) (value : Text) : Option (List (Text × Value)) :=
  match keys with
  | [part] =>
    if holdsList m shape part && value ≠ [] then
      match Json.read value with
      | .ok v => some (setAt false keys v fields)
      | .error _ => none
    else some (setAt (m.isNothing value) keys (m.valueOf value) fields)
  | _ => some (setAt (m.isNothing value) keys (m.valueOf value) fields)

/-- The fields of a section that have variables of their own; none when one of them cannot
be read. -/
def fieldsOf? (m : Manner) (env : Environment) (name : Text) (shape : SectionShape) :
    Option (List (Text × Value)) :=
  if m.mark = [] then some []
  else
    let marked := m.variableOf name ++ m.mark
    env.foldlM (fun fields v =>
      if startsWith v.1 marked then
        addVariable? m shape fields (m.parts (v.1.drop marked.length)) v.2
      else some fields) []

/-- The fields of an object under the names of the settings, which are written in any case
if it does not matter. -/
def namedFields (m : Manner) (shape : SectionShape) (fields : List (Text × Value)) :
    List (Text × Value) :=
  if m.exactCase then fields
  else
    fields.foldl (fun named f =>
      let name := match shape.find? fun s => s.1 = lower f.1 with
        | some s => s.1
        | none => f.1
      Value.setField named name f.2) []

mutual

/-- A value on top of another: two tables are joined field by field, otherwise the upper
one counts. -/
def merge : Value → Value → Value
  | .table upper, .table lower => .table (mergeFields upper lower)
  | upper, _ => upper

/-- Fields on top of others. -/
def mergeFields : List (Text × Value) → List (Text × Value) → List (Text × Value)
  | [], lower => lower
  | (key, v) :: upper, lower =>
    mergeFields upper
      (Value.setField lower key (match lower.lookup key with
        | some below => merge v below
        | none => v))

end

/-- What the environment says about one section; the error is that it cannot be read. -/
def section? (m : Manner) (env : Environment) (name : Text) (shape : SectionShape) :
    Except Unit (Option Value) :=
  match env.lookup (m.variableOf name) with
  | none =>
    match fieldsOf? m env name shape with
    | none => .error ()
    | some [] => .ok none
    | some fields => .ok (some (.table (namedFields m shape fields)))
  | some t =>
    if m.isNothing t then .ok (some .null)
    else
      match Json.read t with
      | .error _ => .error ()
      | .ok .null => .ok none
      | .ok (.table object) =>
        match fieldsOf? m env name shape with
        | none => .error ()
        | some fields =>
          .ok (some (.table (namedFields m shape (mergeFields fields object))))
      | .ok other => .ok (some other)

/-- The settings of the environment as data, or the name of the section that cannot be
read. -/
def settings (m : Manner) (env : Environment) : Except Text (List (Text × Value)) :=
  let env := folded m env
  let version := match env.lookup (m.variableOf "version".toList) with
    | some t => [("version".toList, m.valueOf t)]
    | none => []
  sections.foldlM (fun fields s =>
    match section? m env s.1 s.2 with
    | .ok (some v) => .ok (fields ++ [(s.1, v)])
    | .ok none => .ok fields
    | .error () => .error s.1) version

end Environment

/-- Whether a setting holds a list. -/
def Setting.holdsList : Setting → Bool
  | includePatterns | excludePatterns => true
  | _ => false

/-- What the variable of a setting writes: JSON where the setting holds a list, else a
text. -/
def Setting.ofVariable? (m : Manner) (x : Setting) (t : Text) : Option Value :=
  if x.holdsList && t ≠ [] then (Json.read t).toOption else some (m.valueOf t)

end ImpactGraph
