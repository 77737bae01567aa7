import ImpactGraph.Number.Length
import ImpactGraph.Text.Ascii
import ImpactGraph.Text.Blank
import ImpactGraph.Value

/-!
# Scalars of TOML

Strings, numbers, booleans, dates and times. Each reader takes the text from where the
scalar starts and gives its value and the text after it, or nothing when there is no such
scalar. Dates and times are checked and then forgotten: nothing in the settings is a date.
An integer of too many digits ends the reading of the whole text.
-/

namespace ImpactGraph.Toml

open Text

/-- A part read at the start of a text, and the text after it; none when there is no such
part. -/
abbrev Reading (α : Type) := Option (α × Text)

/-- Why a text is not read. -/
inductive Misread where
  /-- It does not follow the rules of the format. -/
  | rules
  /-- It follows them up to an integer of so many digits. -/
  | longNumber (digits : Nat)
  deriving DecidableEq, Repr

/-- What must stand at the start of a text, and the text after it, or why it is not
read. -/
abbrev Answer (α : Type) := Except Misread (α × Text)

/-- A part that must be there. -/
def must {α : Type} (r : Reading α) : Answer α :=
  match r with
  | some read => .ok read
  | none => .error .rules

/-- Blanks and line ends. -/
def isGapOrLine (c : Char) : Bool := isInlineBlank c || c = '\n'

/-- Control characters, which must not stand in strings and comments; the tab may. -/
def isControl (c : Char) : Bool := (decide (c.toNat < 0x20) || c.toNat = 0x7F) && c ≠ '\t'

/-- Control characters that must not stand in strings of several lines. -/
def isControlInLines (c : Char) : Bool := isControl c && c ≠ '\n'

/-! ## Numbers -/

/-- More digits, each after a low line or not. -/
def moreDigits (p : Char → Bool) : Text → Text × Text
  | '_' :: c :: rest =>
    if p c then
      let (digits, rest) := moreDigits p rest
      (c :: digits, rest)
    else ([], '_' :: c :: rest)
  | c :: rest =>
    if p c then
      let (digits, rest) := moreDigits p rest
      (c :: digits, rest)
    else ([], c :: rest)
  | [] => ([], [])

/-- Digits, low lines between them left out. -/
def digitRun? (p : Char → Bool) : Text → Reading Text
  | c :: rest =>
    if p c then
      let (digits, rest) := moreDigits p rest
      some (c :: digits, rest)
    else none
  | [] => none

/-- A number of base sixteen, eight or two. -/
def basedNumber? : Text → Reading Value
  | '0' :: 'x' :: rest =>
    (digitRun? isHexDigit rest).map fun r => (.int (ofDigits 16 r.1), r.2)
  | '0' :: 'o' :: rest =>
    (digitRun? (fun c => '0' ≤ c && c ≤ '7') rest).map fun r =>
      (.int (ofDigits 8 r.1), r.2)
  | '0' :: 'b' :: rest =>
    (digitRun? (fun c => c = '0' || c = '1') rest).map fun r =>
      (.int (ofDigits 2 r.1), r.2)
  | _ => none

/-- The digits before a point: a zero, or digits that do not start with one. -/
def wholePart? : Text → Reading Text
  | '0' :: rest => some (['0'], rest)
  | t => digitRun? Char.isDigit t

/-- The digits after a point; none when there is no point with a digit after it. -/
def fractionPart? : Text → Reading Text
  | '.' :: rest => digitRun? Char.isDigit rest
  | _ => none

/-- An exponent: a mark, a sign or none, and digits. -/
def exponentPart? : Text → Reading Int
  | c :: rest =>
    if c = 'e' || c = 'E' then
      match rest with
      | '-' :: rest =>
        (digitRun? Char.isDigit rest).map fun r => (-(ofDigits 10 r.1 : Int), r.2)
      | '+' :: rest =>
        (digitRun? Char.isDigit rest).map fun r => ((ofDigits 10 r.1 : Int), r.2)
      | _ => (digitRun? Char.isDigit rest).map fun r => ((ofDigits 10 r.1 : Int), r.2)
    else none
  | [] => none

/-- A decimal number without its sign. -/
def unsignedNumber? (negative : Bool) (t : Text) : Option (Answer Value) :=
  (wholePart? t).map fun (whole, rest) =>
    let fraction := fractionPart? rest
    let afterFraction := (fraction.map (·.2)).getD rest
    let exponent := exponentPart? afterFraction
    let left := (exponent.map (·.2)).getD afterFraction
    if fraction.isNone && exponent.isNone then
      if Number.mostDigits < whole.length then .error (.longNumber whole.length)
      else
        let n : Int := ofDigits 10 whole
        .ok (.int (if negative then -n else n), left)
    else
      let places := (fraction.map (·.1)).getD []
      .ok (.float (.ofDecimal negative (ofDigits 10 (whole ++ places))
        ((exponent.map (·.1)).getD 0 - places.length)), left)

/-- The words for numbers that are not finite. -/
def specialNumber? (negative : Bool) : Text → Reading Value
  | 'i' :: 'n' :: 'f' :: rest => some (.float (.infinite negative), rest)
  | 'n' :: 'a' :: 'n' :: rest => some (.float .nan, rest)
  | _ => none

/-- A number. -/
def number (t : Text) : Answer Value :=
  let negative := t.head? = some '-'
  let body := if negative || t.head? = some '+' then t.tail else t
  match basedNumber? t with
  | some read => .ok read
  | none => (unsignedNumber? negative body).getD (must (specialNumber? negative body))

/-! ## Dates and times -/

/-- A number of exactly so many digits. -/
def fixedDigits? (n : Nat) (t : Text) : Reading Nat :=
  let digits := t.take n
  if digits.length = n && digits.all Char.isDigit then
    some (ofDigits 10 digits, t.drop n) else none

/-- A given character. -/
def char? (c : Char) : Text → Option Text
  | d :: rest => if d = c then some rest else none
  | [] => none

/-- A number of two digits within bounds. -/
def twoDigits? (low high : Nat) (t : Text) : Reading Nat :=
  (fixedDigits? 2 t).filter fun r => low ≤ r.1 && r.1 ≤ high

/-- The number of days of a month. -/
def daysIn (year month : Nat) : Nat :=
  if month = 2 then
    (if year % 4 = 0 && (year % 100 ≠ 0 || year % 400 = 0) then 29 else 28)
  else if month ∈ [4, 6, 9, 11] then 30
  else 31

/-- The text of a date with a day up to 31, whether the calendar has it or not. -/
def date? (t : Text) : Option ((Nat × Nat × Nat) × Text) := do
  let (year, t) ← fixedDigits? 4 t
  let t ← char? '-' t
  let (month, t) ← twoDigits? 1 12 t
  let t ← char? '-' t
  let (day, t) ← twoDigits? 1 31 t
  some ((year, month, day), t)

/-- The text after a time of day. -/
def time? (t : Text) : Option Text := do
  let (_, t) ← twoDigits? 0 23 t
  let t ← char? ':' t
  let (_, t) ← twoDigits? 0 59 t
  let t ← char? ':' t
  let (_, t) ← twoDigits? 0 59 t
  match t with
  | '.' :: d :: rest =>
    if Char.isDigit d then some (rest.dropWhile Char.isDigit) else some t
  | _ => some t

/-- The text after an offset from universal time, which may be missing. -/
def afterOffset (t : Text) : Text :=
  let hours? (rest : Text) : Option Text := do
    let (_, rest) ← twoDigits? 0 23 rest
    let rest ← char? ':' rest
    let (_, rest) ← twoDigits? 0 59 rest
    some rest
  match t with
  | c :: rest =>
    if c = 'Z' || c = 'z' then rest
    else if c = '+' || c = '-' then (hours? rest).getD t
    else t
  | [] => t

/-- A date, with or without a time, which the calendar must have, or a time of day. -/
def moment? (t : Text) : Option (Answer Value) :=
  match date? t with
  | some ((year, month, day), rest) =>
    let rest := match rest with
      | c :: more =>
        if c = 'T' || c = 't' || c = ' ' then
          match time? more with
          | some after => afterOffset after
          | none => rest
        else rest
      | [] => rest
    some (if 1 ≤ year && day ≤ daysIn year month then .ok (.moment, rest) else
      .error .rules)
  | none => (time? t).map fun rest => .ok (.moment, rest)

/-! ## Strings -/

/-- The character of an escape by number, of so many digits. -/
def numberedEscape? (n : Nat) (t : Text) : Reading Char :=
  let digits := t.take n
  let code := ofDigits 16 digits
  if digits.length = n && digits.all isHexDigit && code.isValidChar then
    some (Char.ofNat code, t.drop n)
  else none

/-- The text after a reverse solidus at the end of a line: it joins the next line that is
not blank. -/
def afterLineJoin? (t : Text) : Option Text :=
  match t.dropWhile isInlineBlank with
  | '\n' :: rest => some (rest.dropWhile isGapOrLine)
  | [] => some []
  | _ => none

/-- What follows a reverse solidus: the characters it stands for, and the text after
them. -/
def escape? (inLines : Bool) (t : Text) : Reading Text :=
  match t with
  | [] => none
  | c :: rest =>
    if c = 'u' then (numberedEscape? 4 rest).map fun r => ([r.1], r.2)
    else if c = 'U' then (numberedEscape? 8 rest).map fun r => ([r.1], r.2)
    else if inLines && isGapOrLine c then (afterLineJoin? t).map fun rest => ([], rest)
    else (shortEscape? c).map fun d => ([d], rest)

/-- A string with escapes from after its opening quotes to after its closing ones: one
quote, or three when it has several lines. -/
def basicString? (inLines : Bool) (t : Text) : Reading Text :=
  match t with
  | [] => none
  | c :: rest =>
    if c = '"' then
      if !inLines then some ([], rest)
      else if ['"', '"'].isPrefixOf rest then some ([], rest.drop 2)
      else (basicString? inLines rest).map fun r => ('"' :: r.1, r.2)
    else if c = '\\' then
      match escape? inLines rest with
      | some (chars, after) =>
        if _h : after.length < rest.length + 1 then
          (basicString? inLines after).map fun r => (chars ++ r.1, r.2)
        else none
      | none => none
    else if (if inLines then isControlInLines c else isControl c) then none
    else (basicString? inLines rest).map fun r => (c :: r.1, r.2)
termination_by t.length

/-- A string without escapes, up to the quotes that close it. -/
def literalString? (inLines : Bool) (t : Text) : Reading Text :=
  let quotes := if inLines then ['\'', '\'', '\''] else ['\'']
  match Text.cut quotes t with
  | some (content, rest) =>
    if content.any (if inLines then isControlInLines else isControl) then none
    else some (content, rest)
  | none => none

/-- A line feed right after the opening quotes is not part of the string. -/
def dropFirstLine : Text → Text
  | '\n' :: rest => rest
  | t => t

/-- Up to two more quotes after the closing ones belong to the string. -/
def withTrailingQuotes (quote : Char) (r : Text × Text) : Text × Text :=
  match r.2 with
  | c :: d :: rest =>
    if c = quote then
      if d = quote then (r.1 ++ [quote, quote], rest) else (r.1 ++ [quote], d :: rest)
    else r
  | [c] => if c = quote then (r.1 ++ [quote], []) else r
  | [] => r

/-- A string of any of the four kinds. -/
def string? : Text → Reading Text
  | '"' :: '"' :: '"' :: rest =>
    (basicString? true (dropFirstLine rest)).map (withTrailingQuotes '"')
  | '\'' :: '\'' :: '\'' :: rest =>
    (literalString? true (dropFirstLine rest)).map (withTrailingQuotes '\'')
  | '"' :: rest => basicString? false rest
  | '\'' :: rest => literalString? false rest
  | _ => none

/-- A scalar of any kind. -/
def scalar (t : Text) : Answer Value :=
  match t with
  | '"' :: _ | '\'' :: _ => (must (string? t)).map fun r => (.text r.1, r.2)
  | 't' :: 'r' :: 'u' :: 'e' :: rest => .ok (.bool true, rest)
  | 'f' :: 'a' :: 'l' :: 's' :: 'e' :: rest => .ok (.bool false, rest)
  | _ => (moment? t).getD (number t)

end ImpactGraph.Toml
