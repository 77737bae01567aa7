import ImpactGraph.Text.Decode

/-!
# Percent encoding

An address is ASCII. A character that may not stand in some part of it is written as the
bytes of its encoding, each as a percent sign and two hexadecimal digits. Which characters
may stand depends on the part. Percent signs that are there already stay, so encoding what
is encoded changes nothing.
-/

namespace ImpactGraph.Indexer

open Text

/-- The upper-case hexadecimal digits of a byte after a percent sign. -/
def percent (b : UInt8) : Text := '%' :: (hex 2 b.toNat).map Char.toUpper

/-- A text with the bytes of all characters encoded that do not pass. -/
def encodeExcept (passes : Char → Bool) (t : Text) : Text :=
  t.flatMap fun c => if passes c then [c] else (encode [c]).flatMap percent

/-- Characters that need no encoding anywhere in an address. -/
def isUnreserved (c : Char) : Bool :=
  ('a' ≤ c && c ≤ 'z') || ('A' ≤ c && c ≤ 'Z') || ('0' ≤ c && c ≤ '9') || c =
    '_' || c = '.' ||
  c = '-' || c = '~'

/-- Visible ASCII characters. -/
def isVisible (c : Char) : Bool := decide (0x20 < c.toNat) && decide (c.toNat < 0x7F)

/-- Characters that a fragment holds as they are. -/
def isFragmentChar (c : Char) : Bool := isVisible c && !(c ∈ ['"', '<', '>', '`'])

/-- Characters that a query holds as they are. -/
def isQueryChar (c : Char) : Bool := isVisible c && !(c ∈ ['"', '#', '<', '>'])

/-- Characters that a path holds as they are. -/
def isPathChar (c : Char) : Bool := isQueryChar c && !(c ∈ ['?', '`', '{', '}'])

/-- Characters that the name of a user holds as they are. -/
def isUserChar (c : Char) : Bool :=
  isPathChar c && !(c ∈ ['/', ';', '=', '@', '[', '\\', ']', '^', '|'])

/-- Characters that the name of a host holds as they are. -/
def isHostChar (c : Char) : Bool :=
  isUnreserved c || c ∈ "!$&'()*+,;=\"`\x7b\x7d%|\\".toList

/-- A text as one component of a path. -/
def component (t : Text) : Text := encodeExcept isUnreserved t

end ImpactGraph.Indexer
