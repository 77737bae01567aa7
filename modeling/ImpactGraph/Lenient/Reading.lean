import ImpactGraph.Lenient.Checked
import ImpactGraph.Number.Length
import ImpactGraph.Text.Ascii
import ImpactGraph.Text.Blank

/-!
# Lenient reading

A field takes the values of its own type, and those that stand for one without doubt: an
integer may be a boolean, a double without a fraction or digits in a text; a number may be
any of these and the words for an infinity or no number; a boolean may be 0 or 1 or one of
the usual words. A text is never made of anything else.
-/

namespace ImpactGraph.Lenient

open Text

/-- A text. -/
def text : Value → Checked Text
  | .text t => .ok t
  | _ => .fault .text

/-- White space that is trimmed around numbers in texts: blanks other than separators of
records. -/
def isSpace (c : Char) : Bool :=
  isBlank c && !(decide (0x1C ≤ c.toNat) && decide (c.toNat ≤ 0x1F))

/-- A text without its low lines, each of which must stand between two other
characters. -/
def dropLowLines? (t : Text) : Option Text :=
  let parts := split '_' t
  if parts.length = 1 || parts.all (· ≠ []) then some (t.filter (· ≠ '_')) else none

/-- A text that starts with a digit, without the zeros at its front and the low lines
among them. One zero stays where nothing or a point follows; a minus sign that follows the
zeros takes their place. -/
def dropLeadingZeros? (t : Text) : Option Text :=
  let isZero (c : Char) : Bool := c = '0' || c = '_'
  match t with
  | [] => none
  | c :: _ =>
    if c ≠ '0' then (if Char.isDigit c then some t else none)
    else
      match t.dropWhile isZero with
      | [] => some t.getLast?.toList
      | '.' :: rest => some ((t.takeWhile isZero).getLast?.toList ++ '.' :: rest)
      | d :: rest => if Char.isDigit d || d = '-' then some (d :: rest) else none

/-- A text without a fraction that is all zeros. -/
def dropZeroFraction (t : Text) : Text :=
  match cut ['.'] t with
  | some (whole, fraction) => if fraction ≠ [] && fraction.all (· = '0') then whole else t
  | none => t

/-- The number that digits write; none when there is another character or no digit. -/
def digits? (t : Text) : Option Nat :=
  if t ≠ [] && t.all Char.isDigit then some (ofDigits 10 t) else none

/-- The integer that a text writes in the strict form: a minus sign or none, and digits of
which only a lone one is a zero at the front. What is too long, its sign counted, is
refused before it is read to its end. -/
def strictInteger (t : Text) : Except Misfit Int :=
  let negative := t.head? = some '-'
  let body := if negative then t.tail else t
  if body.head? = some '0' then (if body = ['0'] then .ok 0 else .error .integerText)
  else if Number.mostDigits < (body.takeWhile Char.isDigit).length +
    (if negative then 1 else 0) then
    .error .integerSize
  else
    match digits? body with
    | some n => .ok (if negative then -(n : Int) else n)
    | none => .error .integerText

/-- The free form of an integer, without its sign, in the strict form. -/
def strictForm? (t : Text) : Option Text :=
  (dropLeadingZeros? t).map fun t =>
    let t := dropZeroFraction t
    (dropLowLines? t).getD t

/-- The integer that a trimmed text writes in the free form: with a sign of either kind,
zeros at its front, single low lines between its digits, and a fraction of zeros. -/
def freeInteger (t : Text) : Except Misfit Int :=
  let strict := match t with
    | '+' :: rest => if rest.head? = some '-' then none else strictForm? rest
    | '-' :: rest => (strictForm? rest).map ('-' :: ·)
    | _ => strictForm? t
  match strict with
  | some strict => strictInteger strict
  | none => .error .integerText

/-- The integer that a text writes, blanks around it left out. -/
def integerOfText (t : Text) : Except Misfit Int :=
  let t := trimWhile isSpace t
  match strictInteger t with
  | .error .integerText => freeInteger t
  | answer => answer

/-- A double as an integer. -/
def integerOfDouble (x : Binary64) : Checked Int :=
  match x with
  | .infinite _ | .nan => .fault .finite
  | .finite _ _ _ =>
    match x.toInt? with
    | none => .fault .fraction
    | some n => if n.natAbs < Nat.pow 2 63 then .ok n else .fault .integerSize

/-- An integer. -/
def integer : Value → Checked Int
  | .int n => .ok n
  | .bool b => .ok (if b then 1 else 0)
  | .float x => integerOfDouble x
  | .text t =>
    match integerOfText t with
    | .ok n => .ok n
    | .error misfit => .fault misfit
  | _ => .fault .integer

/-- A text in lower case, ASCII letters only. -/
def asciiLower (t : Text) : Text := t.map Char.toLower

/-- The words for numbers that are not finite. -/
def numberWords : List (Text × Binary64) :=
  [("inf".toList, .infinite false), ("infinity".toList, .infinite false),
    ("nan".toList, .nan)]

/-- The exponent after a number: nothing, or a mark, a sign and digits. -/
def exponent? (t : Text) : Option Int :=
  match t with
  | [] => some 0
  | c :: rest =>
    if c = 'e' || c = 'E' then
      match rest with
      | '-' :: rest => (digits? rest).map fun n => -(n : Int)
      | '+' :: rest => (digits? rest).map Int.ofNat
      | _ => (digits? rest).map Int.ofNat
    else none

/-- The double nearest to an unsigned decimal in a text. -/
def decimal? (negative : Bool) (t : Text) : Option Binary64 :=
  let whole := t.takeWhile Char.isDigit
  let rest := t.dropWhile Char.isDigit
  let fraction := if rest.head? = some '.' then rest.tail.takeWhile Char.isDigit else []
  let rest := if rest.head? = some '.' then rest.tail.dropWhile Char.isDigit else rest
  match digits? (whole ++ fraction), exponent? rest with
  | some n, some e => some (.ofDecimal negative n (e - fraction.length))
  | _, _ => none

/-- The double that a trimmed text writes. -/
def doubleOf? (t : Text) : Option Binary64 :=
  let negative := t.head? = some '-'
  let body := if negative || t.head? = some '+' then t.tail else t
  match numberWords.lookup (asciiLower body) with
  | some (.infinite _) => some (.infinite negative)
  | some x => some x
  | none => decimal? negative body

/-- The double that a text writes, with blanks around it or with low lines between
characters, not with both. -/
def doubleOfText? (t : Text) : Option Binary64 :=
  (doubleOf? (trimWhile isSpace t)).orElse fun _ => (dropLowLines? t).bind doubleOf?

/-- A number. -/
def number : Value → Checked Binary64
  | .float x => .ok x
  | .int n =>
    match Binary64.ofInt? n with
    | some x => .ok x
    | none => .fault .number
  | .bool b => .ok (.ofQuotient false (if b then 1 else 0) 1)
  | .text t =>
    match doubleOfText? t with
    | some x => .ok x
    | none => .fault .numberText
  | _ => .fault .number

/-- The words for no. -/
def noWords : List Text :=
  ["0".toList, "off".toList, "f".toList, "false".toList, "n".toList, "no".toList]

/-- The words for yes. -/
def yesWords : List Text :=
  ["1".toList, "on".toList, "t".toList, "true".toList, "y".toList, "yes".toList]

/-- An integer of 64 bits as a boolean. -/
def booleanOfInteger (n : Int) : Checked Bool :=
  if n = 0 then .ok false else if n = 1 then .ok true else .fault .booleanText

/-- A boolean. -/
def boolean : Value → Checked Bool
  | .bool b => .ok b
  | .int n =>
    if -(Nat.pow 2 63 : Int) ≤ n && n < (Nat.pow 2 63 : Int) then booleanOfInteger n
    else .fault .boolean
  | .float x =>
    match integerOfDouble x with
    | .ok n => booleanOfInteger n
    | .error _ => .fault .boolean
  | .text t =>
    if asciiLower t ∈ noWords then .ok false
    else if asciiLower t ∈ yesWords then .ok true
    else .fault .booleanText
  | _ => .fault .boolean

/-- A list of items that pass a check. -/
def list {α : Type} (check : Value → Checked α) : Value → Checked (List α)
  | .list vs => Checked.items check 0 vs
  | _ => .fault .list

/-- A list of texts. -/
def texts (v : Value) : Checked (List Text) := list text v

/-- An integer that is not below a limit. -/
def integerFrom (limit : Int) (v : Value) : Checked Int :=
  (integer v).bind fun n => if n < limit then .fault .tooSmall else .ok n

/-- A field of a table; the default when it is not there. -/
def field {α : Type} (fields : List (Text × Value)) (name : Text) (default : α)
    (check : Value → Checked α) : Checked α :=
  match fields.lookup name with
  | some v => (check v).under (.field name)
  | none => .ok default

/-- A field of a table under the first of its names that is there; a fault when there is
none. -/
def required {α : Type} (fields : List (Text × Value)) (names : List Text)
    (check : Value → Checked α) : Checked α :=
  match names.findSome? fun name => fields.lookup name with
  | some v => (check v).under (.field (names.headD []))
  | none => Except.error [⟨[.field (names.headD [])], .missing⟩]

end ImpactGraph.Lenient
