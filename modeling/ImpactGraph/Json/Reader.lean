import ImpactGraph.Json.Token

/-!
# Reading JSON

A machine reads the tokens one by one. It holds the lists and tables that are open, the
innermost first, and what it expects next. A token that does not fit is reported by what
was expected in its place. When a key is written twice the last value counts, at the place
of the first.
-/

namespace ImpactGraph.Json

/-- Why a text is no JSON. -/
inductive Fault where
  | value
  | propertyName
  | colon
  | comma
  | extraData
  | string (fault : StringFault)
  | longNumber (digits : Nat)
  deriving DecidableEq, Repr

/-- What is said about a fault, without its place. -/
def Fault.words : Fault → Text
  | value => "Expecting value".toList
  | propertyName => "Expecting property name enclosed in double quotes".toList
  | colon => "Expecting ':' delimiter".toList
  | comma => "Expecting ',' delimiter".toList
  | extraData => "Extra data".toList
  | string .unterminated => "Unterminated string starting at".toList
  | string .controlCharacter => "Invalid control character at".toList
  | string .escape => "Invalid \\escape".toList
  | string .unicodeEscape => "Invalid \\uXXXX escape".toList
  | longNumber digits => Number.tooLong digits

/-- A fault and the offset it is reported at. -/
structure Error where
  fault : Fault
  offset : Nat
  deriving DecidableEq, Repr

/-- Where an offset of a text is: its line, column and number. -/
def placeOf (offset : Nat) (t : Text) : Text :=
  let passed := t.take offset
  let line := passed.count '\n' + 1
  let column := (passed.reverse.takeWhile (· ≠ '\n')).length + 1
  ": line ".toList ++ Text.ofNat line ++ " column ".toList ++ Text.ofNat column ++
    " (char ".toList ++ Text.ofNat offset ++ ")".toList

/-- What is said about an error in a text: the fault, and its place unless it is a number
that is too long. -/
def Error.message (e : Error) (t : Text) : Text :=
  match e.fault with
  | .longNumber _ => e.fault.words
  | _ => e.fault.words ++ placeOf e.offset t

/-- A list or table that is open, with what it holds so far, the last first. -/
inductive Frame where
  | list (items : List Value)
  | table (fields : List (Text × Value)) (key : Text)

/-- What can come next. -/
inductive Expect where
  | value
  | firstItem
  | key (fields : List (Text × Value))
  | firstKey
  | colon (fields : List (Text × Value)) (key : Text)
  | delimiter (v : Value)

/-- The fault of a token that does not fit. -/
def Expect.fault : Expect → List Frame → Fault
  | value, _ | firstItem, _ => .value
  | key _, _ | firstKey, _ => .propertyName
  | colon _ _, _ => .colon
  | delimiter _, [] => .extraData
  | delimiter _, _ :: _ => .comma

/-- A value in the place where one is expected, if the token begins one. -/
def beginValue (frames : List Frame) (token : Token) :
    Except Error (List Frame × Expect) :=
  match token.lexeme with
  | .openList => .ok (.list [] :: frames, .firstItem)
  | .openTable => .ok (frames, .firstKey)
  | .scalar v => .ok (frames, .delimiter v)
  | .string t => .ok (frames, .delimiter (.text t))
  | .badString fault offset => .error ⟨.string fault, offset⟩
  | .longNumber digits => .error ⟨.longNumber digits, token.offset⟩
  | _ => .error ⟨.value, token.offset⟩

/-- A key in the place where one is expected. -/
def beginKey (frames : List Frame) (fields : List (Text × Value)) (token : Token) :
    Except Error (List Frame × Expect) :=
  match token.lexeme with
  | .string t => .ok (frames, .colon fields t)
  | .badString fault offset => .error ⟨.string fault, offset⟩
  | _ => .error ⟨.propertyName, token.offset⟩

/-- One step of the machine. -/
def step (frames : List Frame) (expect : Expect) (token : Token) :
    Except Error (List Frame × Expect) :=
  match expect with
  | .value => beginValue frames token
  | .firstItem =>
    match token.lexeme, frames with
    | .closeList, .list _ :: frames => .ok (frames, .delimiter (.list []))
    | _, _ => beginValue frames token
  | .firstKey =>
    match token.lexeme with
    | .closeTable => .ok (frames, .delimiter (.table []))
    | _ => beginKey frames [] token
  | .key fields => beginKey frames fields token
  | .colon fields key =>
    match token.lexeme with
    | .colon => .ok (.table fields key :: frames, .value)
    | _ => .error ⟨.colon, token.offset⟩
  | .delimiter v =>
    match frames, token.lexeme with
    | [], _ => .error ⟨.extraData, token.offset⟩
    | .list items :: frames, .comma => .ok (.list (v :: items) :: frames, .value)
    | .list items :: frames, .closeList =>
      .ok (frames, .delimiter (.list (v :: items).reverse))
    | .table fields key :: frames, .comma => .ok (frames, .key ((key, v) :: fields))
    | .table fields key :: frames, .closeTable =>
      .ok (frames, .delimiter (.tableOf ((key, v) :: fields).reverse))
    | _ :: _, _ => .error ⟨.comma, token.offset⟩

/-- The value that tokens write, in a text of a given length. -/
def run (length : Nat) (frames : List Frame) (expect : Expect) :
    List Token → Except Error Value
  | [] =>
    match frames, expect with
    | [], .delimiter v => .ok v
    | _, _ => .error ⟨expect.fault frames, length⟩
  | token :: tokens =>
    match step frames expect token with
    | .ok (frames, expect) => run length frames expect tokens
    | .error e => .error e

/-- The value that a text writes. -/
def read (t : Text) : Except Error Value := run t.length [] .value (tokens t)

end ImpactGraph.Json
