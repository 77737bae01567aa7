import ImpactGraph.Number.Length
import ImpactGraph.Text.Ascii
import ImpactGraph.Value

/-!
# Tokens of JSON

The pieces of a JSON text: brackets, commas, colons, scalars and strings, each at its
offset. A piece that is none of these is a token too; what is said about it depends on
what was expected there. The words `NaN` and `Infinity` are numbers. Numbers with a
fraction or an exponent are doubles, all others are integers, which may have thousands of
digits but not any number of them.
-/

namespace ImpactGraph.Json

open Text

/-- Why a string cannot be read. -/
inductive StringFault where
  | unterminated
  | controlCharacter
  | escape
  | unicodeEscape
  deriving DecidableEq, Repr

/-- The kinds of tokens. -/
inductive Lexeme where
  | openList
  | closeList
  | openTable
  | closeTable
  | comma
  | colon
  | scalar (v : Value)
  | string (t : Text)
  /-- A string that cannot be read, and the offset where the fault is reported. -/
  | badString (fault : StringFault) (offset : Nat)
  /-- An integer of more digits than are read. -/
  | longNumber (digits : Nat)
  /-- Nothing that can begin a value. -/
  | junk

/-- A lexeme and its offset. -/
structure Token where
  offset : Nat
  lexeme : Lexeme

/-- The character of an escape of one letter; a solidus may be escaped too. -/
def escape? (c : Char) : Option Char := if c = '/' then some '/' else shortEscape? c

/-- A code unit of an escape as a character; a surrogate without its partner is
replaced. -/
def ofUnit (n : Nat) : Char :=
  if 0xD800 ≤ n && n ≤ 0xDFFF then Char.ofNat 0xFFFD else Char.ofNat n

/-- The second half of a pair of surrogates, when it is what follows. -/
def lowSurrogate? (t : Text) : Option Nat :=
  match t with
  | '\\' :: 'u' :: rest =>
    (hexNumber? (rest.take 4)).filter fun n =>
      0xDC00 ≤ n && n ≤ 0xDFFF && decide (4 < rest.length)
  | _ => none

/-- The characters of a string up to its closing quote, and the number of characters read
with the quote. The string began at `start`; `offset` is where its next character
stands. -/
def stringFrom (start offset : Nat) (t : Text) : Lexeme × Nat :=
  let add (c : Char) (n : Nat) (r : Lexeme × Nat) : Lexeme × Nat :=
    match r.1 with
    | .string s => (.string (c :: s), r.2 + n)
    | other => (other, r.2 + n)
  match t with
  | [] => (.badString .unterminated start, 0)
  | c :: rest =>
    if c = '"' then (.string [], 1)
    else if c ≠ '\\' then
      if c.toNat < 0x20 then (.badString .controlCharacter offset, 1)
      else add c 1 (stringFrom start (offset + 1) rest)
    else
      match rest with
      | [] => (.badString .unterminated start, 1)
      | e :: more =>
        if e ≠ 'u' then
          match escape? e with
          | some d => add d 2 (stringFrom start (offset + 2) more)
          | none => (.badString .escape offset, 2)
        else
          match (if 4 < more.length then hexNumber? (more.take 4) else none) with
          | none => (.badString .unicodeEscape (offset + 1), 2)
          | some n =>
            let left := more.drop 4
            match (if 0xD800 ≤ n && n ≤ 0xDBFF then lowSurrogate? left else none) with
            | some low =>
              add (Char.ofNat (0x10000 + (n - 0xD800) * 0x400 + (low - 0xDC00))) 12
                (stringFrom start (offset + 12) (left.drop 6))
            | none => add (ofUnit n) 6 (stringFrom start (offset + 6) left)
termination_by t.length
decreasing_by all_goals (simp_wf; try omega)

/-- The digits of a fraction after its point; empty when there is no fraction. -/
def fractionDigits : Text → Text
  | '.' :: rest => rest.takeWhile Char.isDigit
  | _ => []

/-- The sign and digits of an exponent, and the length of its text; length zero when there
is none. -/
def exponentPart (t : Text) : Int × Nat :=
  let read (negative : Bool) (mark : Nat) (rest : Text) : Int × Nat :=
    let digits := rest.takeWhile Char.isDigit
    if digits = [] then (0, 0)
    else
      let n : Int := ofDigits 10 digits
      (if negative then -n else n, mark + digits.length)
  match t with
  | c :: rest =>
    if c = 'e' || c = 'E' then
      match rest with
      | '+' :: more => read false 2 more
      | '-' :: more => read true 2 more
      | _ => read false 1 rest
    else (0, 0)
  | [] => (0, 0)

/-- The number at the start of a text, and the length of its text; none when there is no
number. -/
def number? (t : Text) : Option (Lexeme × Nat) :=
  let negative := t.head? = some '-'
  let body := if negative then t.tail else t
  let whole := if body.head? = some '0' then ['0'] else body.takeWhile Char.isDigit
  if whole = [] then none
  else
    let rest := body.drop whole.length
    let fraction := fractionDigits rest
    let used := if fraction = [] then 0 else fraction.length + 1
    let (exponent, more) := exponentPart (rest.drop used)
    let length := (if negative then 1 else 0) + whole.length + used + more
    if used = 0 && more = 0 then
      if Number.mostDigits < whole.length then some (.longNumber whole.length, length)
      else
        let n : Int := ofDigits 10 whole
        some (.scalar (.int (if negative then -n else n)), length)
    else
      let x :=
        Binary64.ofDecimal negative (ofDigits 10 (whole ++ fraction)) (exponent -
          fraction.length)
      some (.scalar (.float x), length)

/-- The words that are values. -/
def words : List (Text × Value) :=
  [("null".toList, .null), ("true".toList, .bool true), ("false".toList, .bool false),
    ("NaN".toList, .float .nan), ("Infinity".toList, .float (.infinite false)),
    ("-Infinity".toList, .float (.infinite true))]

/-- The lexeme at the start of a text that begins with `c`, and the number of characters
it takes. -/
def lexeme (offset : Nat) (c : Char) (rest : Text) : Lexeme × Nat :=
  if c = '[' then (.openList, 1)
  else if c = ']' then (.closeList, 1)
  else if c = '{' then (.openTable, 1)
  else if c = '}' then (.closeTable, 1)
  else if c = ',' then (.comma, 1)
  else if c = ':' then (.colon, 1)
  else if c = '"' then
    let (lexeme, n) := stringFrom offset (offset + 1) rest
    (lexeme, n + 1)
  else
    match words.find? fun word => word.1.isPrefixOf (c :: rest) with
    | some (word, v) => (.scalar v, word.length)
    | none =>
      match number? (c :: rest) with
      | some number => number
      | none => (.junk, 1)

/-- The white space that may stand between tokens. -/
def isSpace (c : Char) : Bool := c = ' ' || c = '\t' || c = '\n' || c = '\r'

/-- The tokens of a text that starts at an offset. -/
def tokensFrom (offset : Nat) (t : Text) : List Token :=
  match t with
  | [] => []
  | c :: rest =>
    if isSpace c then tokensFrom (offset + 1) rest
    else
      let (lexeme, n) := lexeme offset c rest
      ⟨offset, lexeme⟩ :: tokensFrom (offset + 1 + (n - 1)) (rest.drop (n - 1))
termination_by t.length
decreasing_by all_goals (simp_wf; try omega)

/-- The tokens of a text. -/
def tokens (t : Text) : List Token := tokensFrom 0 t

end ImpactGraph.Json
