import ImpactGraph.Text.Basic

/-!
# Binary floating-point numbers

A number with a fraction or an exponent is held as the double it is read as: a significand
below 2^53 times a power of two, an infinity, or no number. Reading a decimal rounds its
exact value to the nearest double, a tie to the even significand; from 2^1024 − 2^970 on
the nearest one is infinite. All arithmetic is on natural numbers.
-/

namespace ImpactGraph

/-- A double. A finite one is the significand times two to the exponent. -/
inductive Binary64 where
  | finite (negative : Bool) (significand : Nat) (exponent : Int)
  | infinite (negative : Bool)
  | nan
  deriving DecidableEq, Repr

namespace Binary64

/-- The quotient rounded to the nearest whole number, a tie to the even one. -/
def roundDiv (num den : Nat) : Nat :=
  let q := num / den
  let twice := 2 * (num % den)
  if den < twice || (twice = den && q % 2 = 1) then q + 1 else q

/-- The double nearest to a quotient of natural numbers. -/
def ofQuotient (negative : Bool) (num den : Nat) : Binary64 :=
  if num = 0 then finite negative 0 0
  else
    let scaled (e : Int) : Nat × Nat :=
      if 0 ≤ e then (num, den * Nat.pow 2 e.toNat) else (num * Nat.pow 2 (-e).toNat, den)
    let low : Int := num.log2 - den.log2 - 53
    let quotient := scaled low
    let exponent :=
      max (if Nat.pow 2 53 ≤ quotient.1 / quotient.2 then low + 1 else low) (-1074)
    let pair := scaled exponent
    let significand := roundDiv pair.1 pair.2
    let (significand, exponent) :=
      if significand = Nat.pow 2 53 then (Nat.pow 2 52, exponent + 1) else
        (significand, exponent)
    if 971 < exponent then infinite negative else finite negative significand exponent

/-- The double nearest to a decimal: its digits as a whole number, times a power of
ten. -/
def ofDecimal (negative : Bool) (digits : Nat) (exponent : Int) : Binary64 :=
  let size : Int := (Nat.toDigits 10 digits).length + exponent
  if digits = 0 || size < -400 then finite negative 0 0
  else if 400 < size then infinite negative
  else if 0 ≤ exponent then ofQuotient negative (digits * Nat.pow 10 exponent.toNat) 1
  else ofQuotient negative digits (Nat.pow 10 (-exponent).toNat)

/-- The whole number that a finite double is, when it has no fraction. -/
def toInt? : Binary64 → Option Int
  | finite negative significand exponent =>
    let unit := Nat.pow 2 (-exponent).toNat
    if significand % unit = 0 then
      let magnitude : Int := (significand / unit * Nat.pow 2 exponent.toNat : Nat)
      some (if negative then -magnitude else magnitude)
    else none
  | _ => none

/-- The double nearest to a whole number; none beyond the largest. -/
def ofInt? (n : Int) : Option Binary64 :=
  match ofDecimal (decide (n < 0)) n.natAbs 0 with
  | infinite _ => none
  | x => some x

/-- The exact decimal text of a double: all of its digits, with `.0` when there is no
fraction. -/
def decimal : Binary64 → Text
  | finite negative significand exponent =>
    let places := (-exponent).toNat
    let digits := Text.ofNat (significand * Nat.pow 5 places * Nat.pow 2 exponent.toNat)
    let digits := List.replicate (places + 1 - digits.length) '0' ++ digits
    let whole := digits.take (digits.length - places)
    let fraction := digits.drop (digits.length - places)
    (if negative then ['-'] else []) ++ whole ++ '.' ::
      (if fraction = [] then ['0'] else fraction)
  | infinite negative => (if negative then "-Infinity" else "Infinity").toList
  | nan => "NaN".toList

end Binary64

end ImpactGraph
