import ImpactGraph.Text.Basic

/-!
# Blanks

The characters that separate words: the ASCII controls that move the carriage or separate
records, the space, and the spaces and line breaks of other scripts. The zero-width space
and the byte order mark are not blanks.
-/

namespace ImpactGraph.Text

/-- White space of any script. -/
def isBlank (c : Char) : Bool :=
  c = ' ' || (decide (0x09 ≤ c.toNat) && decide (c.toNat ≤ 0x0D)) ||
  (decide (0x1C ≤ c.toNat) && decide (c.toNat ≤ 0x1F)) ||
  c.toNat ∈ [0x85, 0xA0, 0x1680, 0x2028, 0x2029, 0x202F, 0x205F, 0x3000] ||
  (decide (0x2000 ≤ c.toNat) && decide (c.toNat ≤ 0x200A))

/-- The blanks inside a line that separate words. -/
def isInlineBlank (c : Char) : Bool := c = ' ' || c = '\t'

/-- A text without the blanks at its ends. -/
def strip (text : Text) : Text := trimWhile isBlank text

/-- The words of a text: its longest runs without blanks. -/
def words (text : Text) : List Text := fields isBlank text

/-- The words of a text with one space between neighbours. -/
def singleSpaced (text : Text) : Text := join [' '] (words text)

/-- A comma-separated list of names, each without the blanks around it; blank entries are
dropped. -/
def names (text : Text) : List Text :=
  ((text.split ',').map strip).filter (· ≠ [])

end ImpactGraph.Text
