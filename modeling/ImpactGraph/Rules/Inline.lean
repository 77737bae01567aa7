import ImpactGraph.Pattern.Basic

/-!
# Words of one line

What the rules of several languages share: the gaps between the words of one line, and the
characters of dotted names.
-/

namespace ImpactGraph.Rules

open Text Pattern

/-- Blanks inside a line, which may be missing. -/
def inlineGap : Pattern := many isInlineBlank

/-- At least one blank inside a line. -/
def inlineSpace : Pattern := many1 isInlineBlank

/-- A word character or a dot. -/
def isDottedChar (c : Char) : Bool := isWord c || c = '.'

theorem isDottedChar_of_isInlineBlank {c : Char} (h : isInlineBlank c = true) :
    isDottedChar c = false := by
  simp only [isInlineBlank, Bool.or_eq_true, decide_eq_true_eq] at h
  rcases h with rfl | rfl <;> decide

end ImpactGraph.Rules
