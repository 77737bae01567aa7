import ImpactGraph.Toml.Scalar
import ImpactGraph.Toml.Tables

/-!
# Reading TOML

A document is read statement by statement: a pair of a key and a value, the header of a
table, or the header of a list item. Each statement ends its line. Readers give what they
read and the text after it, or say why there is no answer: the text does not follow the
rules, or an integer is too long.
-/

namespace ImpactGraph.Toml

/-- A text without the blanks inside its first line that it starts with. -/
def dropGaps (t : Text) : Text := t.dropWhile Text.isInlineBlank

/-- The text after a comment, if one starts here; a comment holds no control
characters. -/
def afterComment? (t : Text) : Option Text :=
  match t with
  | '#' :: rest =>
    if (rest.takeWhile (· ≠ '\n')).any isControl then none else
      some (rest.dropWhile (· ≠ '\n'))
  | _ => some t

/-- The text after blanks, line ends and comments. -/
def afterFiller? (t : Text) : Option Text :=
  match afterComment? (t.dropWhile isGapOrLine) with
  | none => none
  | some rest => if _h : rest.length < t.length then afterFiller? rest else some t
termination_by t.length

/-- Characters of a key without quotes. -/
def isBareKeyChar (c : Char) : Bool :=
  ('a' ≤ c && c ≤ 'z') || ('A' ≤ c && c ≤ 'Z') || Char.isDigit c || c = '-' || c = '_'

/-- One part of a key. -/
def keyPart? (t : Text) : Reading Text :=
  match t with
  | '"' :: rest => basicString? false rest
  | '\'' :: rest => literalString? false rest
  | _ =>
    let part := t.takeWhile isBareKeyChar
    if part = [] then none else some (part, t.dropWhile isBareKeyChar)

/-- A key: parts with points between them. -/
def key? (t : Text) : Reading Key :=
  match keyPart? t with
  | none => none
  | some (part, rest) =>
    match dropGaps rest with
    | '.' :: more =>
      let next := dropGaps more
      if _h : next.length < t.length then (key? next).map fun r =>
        (part :: r.1, r.2) else none
    | rest => some ([part], rest)
termination_by t.length

/-- Whether a value is closed for good once it is written. -/
def isClosing : Value → Bool
  | .table _ | .list _ => true
  | _ => false

mutual

/-- A value. -/
def value (t : Text) : Answer Value :=
  match t with
  | '[' :: rest =>
    match afterFiller? rest with
    | some (']' :: after) => .ok (.list [], after)
    | some next =>
      if _h : next.length < rest.length + 1 then (items next).map fun r =>
        (.list r.1, r.2)
      else .error .rules
    | none => .error .rules
  | '{' :: rest =>
    match dropGaps rest with
    | '}' :: after => .ok (.table [], after)
    | next =>
      if _h : next.length < rest.length + 1 then
        (pairs {} [] next).map fun r => (.table r.1, r.2)
      else .error .rules
  | _ => scalar t
termination_by (t.length, 0)
decreasing_by all_goals (apply Prod.Lex.left; simpa using _h)

/-- The items of a list up to its closing bracket. -/
def items (t : Text) : Answer (List Value) :=
  match value t with
  | .error e => .error e
  | .ok (v, rest) =>
    match afterFiller? rest with
    | some (']' :: after) => .ok ([v], after)
    | some (',' :: more) =>
      match afterFiller? more with
      | some (']' :: after) => .ok ([v], after)
      | some next =>
        if _h : next.length < t.length then (items next).map fun r => (v :: r.1, r.2)
        else .error .rules
      | none => .error .rules
    | _ => .error .rules
termination_by (t.length, 2)
decreasing_by
  · apply Prod.Lex.right; decide
  · apply Prod.Lex.left; assumption

/-- The pairs of an inline table up to its closing brace, added to those read before. -/
def pairs (marks : Marks) (fields : Fields) (t : Text) : Answer Fields :=
  match key? t with
  | some (key, '=' :: more) =>
    let start := dropGaps more
    if _h : start.length < t.length then
      match value start with
      | .error e => .error e
      | .ok (v, rest) =>
        match (if marks.isClosed key then none else addField false key v fields) with
        | none => .error .rules
        | some fields =>
          match dropGaps rest with
          | '}' :: after => .ok (fields, after)
          | ',' :: more =>
            let next := dropGaps more
            if _h' : next.length < t.length then
              pairs (if isClosing v then marks.close key else marks) fields next
            else .error .rules
          | _ => .error .rules
    else .error .rules
  | _ => .error .rules
termination_by (t.length, 1)
decreasing_by all_goals (apply Prod.Lex.left; assumption)

end

/-- A document under construction: its fields, its marks, and the table that pairs go
to. -/
structure Document where
  fields : Fields := []
  marks : Marks := {}
  header : Key := []

namespace Document

/-- The document with the table of a header opened. -/
def openTable (d : Document) (key : Key) : Option Document :=
  let marks := d.marks
  if marks.isDeclared key || marks.isClosed key then none
  else
    (changeAt true some key d.fields).map fun fields => ⟨fields, marks.declare key, key⟩

/-- The document with a new item of the list of a header opened. -/
def openItem (d : Document) (key : Key) : Option Document :=
  if d.marks.isClosed key then none
  else
    (addListItem key d.fields).map fun fields =>
      ⟨fields, (d.marks.forget key).declare key, key⟩

/-- The keys of the tables that a dotted key goes through, below a header. -/
def through (header key : Key) : List Key :=
  (List.range (key.length - 1)).map fun n => header ++ key.take (n + 1)

/-- The document with a pair of a key and a value. -/
def addPair (d : Document) (key : Key) (v : Value) : Option Document :=
  let passed := through d.header key
  if passed.any d.marks.isDeclared then none
  else
    let marks := { d.marks with pending := d.marks.pending ++ passed }
    if marks.isClosed (d.header ++ key.dropLast) then none
    else
      (addField true (d.header ++ key) v d.fields).map fun fields =>
        ⟨fields, if isClosing v then marks.close (d.header ++ key) else marks, d.header⟩

/-- The document after a header, and the text after it. -/
def header? (d : Document) (t : Text) : Reading Document :=
  let d := { d with marks := d.marks.settle }
  match t with
  | '[' :: '[' :: rest =>
    match key? (dropGaps rest) with
    | some (key, ']' :: ']' :: after) => (d.openItem key).map (·, after)
    | _ => none
  | '[' :: rest =>
    match key? (dropGaps rest) with
    | some (key, ']' :: after) => (d.openTable key).map (·, after)
    | _ => none
  | _ => none

/-- The document after a pair of a key and a value, and the text after it. -/
def pair (d : Document) (t : Text) : Answer Document :=
  match key? t with
  | some (key, '=' :: rest) =>
    match value (dropGaps rest) with
    | .ok (v, after) => must ((d.addPair key v).map (·, after))
    | .error e => .error e
  | _ => .error .rules

/-- The document after a statement, if one starts here, and the text after it. -/
def statement (d : Document) (t : Text) : Answer Document :=
  match t with
  | [] => .ok (d, t)
  | c :: _ =>
    if c = '#' || c = '\n' then .ok (d, t)
    else if c = '[' then must (header? d t)
    else pair d t

/-- The document after all statements of a text. -/
def readFrom (d : Document) (t : Text) : Except Misread Document :=
  match statement d (dropGaps t) with
  | .error e => .error e
  | .ok (d, rest) =>
    match afterComment? (dropGaps rest) with
    | some [] => .ok d
    | some ('\n' :: next) =>
      if _h : next.length < t.length then readFrom d next else .error .rules
    | _ => .error .rules
termination_by t.length

end Document

/-- A carriage return before a line feed is not read. -/
def plainLines : Text → Text
  | [] => []
  | '\r' :: '\n' :: rest => '\n' :: plainLines rest
  | c :: rest => c :: plainLines rest

/-- The table that a text writes, or why it is not read. -/
def read (t : Text) : Except Misread Fields :=
  (Document.readFrom {} (plainLines t)).map (·.fields)

end ImpactGraph.Toml
