import ImpactGraph.Text.Basic

/-!
# Lengths of numbers

Reading an integer takes time that grows with the square of its length, so there is a
longest one.
-/

namespace ImpactGraph.Number

/-- The most decimal digits that an integer is read from. -/
def mostDigits : Nat := 4300

/-- What is said about an integer that has so many digits and is not read. -/
def tooLong (digits : Nat) : Text :=
  "Exceeds the limit (".toList ++ Text.ofNat mostDigits ++
    " digits) for integer string conversion: value has ".toList ++ Text.ofNat digits ++
    " digits; use sys.set_int_max_str_digits() to increase the limit".toList

end ImpactGraph.Number
