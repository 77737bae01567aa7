import ImpactGraph.Console.Emoji
import ImpactGraph.Console.Style

/-!
# Markup

Text for people may carry style tags: the words of a style in square brackets open it, the
same after a slash close it, and a slash alone closes the style opened last. A reverse
solidus before a bracket keeps a tag as text. Nothing here has styles, so what is shown is
the text without its tags; but a tag that closes what is not open is refused. Between the
tags, pictures may be named. File names are shown this way too, tags in them included.
-/

namespace ImpactGraph.Console

open Text

/-- A part of a marked-up text. -/
inductive Part where
  | plain (text : Text)
  | opening (style : Text)
  | closing (style : Text)
  deriving DecidableEq, Repr

/-- Whether a character can be the first of a tag. -/
def startsTag (c : Char) : Bool := ('a' ≤ c && c ≤ 'z') || c = '#' || c = '/' || c = '@'

/-- The inside of a tag whose opening bracket was just passed, and what follows its
closing bracket. -/
def tagInside? : Text → Option (Text × Text)
  | [] => none
  | c :: rest =>
    if c = ']' then some ([], rest)
    else if c = '[' then none
    else (tagInside? rest).map fun t => (c :: t.1, t.2)

/-- The tag whose opening bracket was just passed. -/
def tag? : Text → Option (Text × Text)
  | [] => none
  | c :: rest =>
    if startsTag c then (tagInside? rest).map fun t => (c :: t.1, t.2) else none

theorem length_of_tagInside? {t inside rest : Text}
    (h : tagInside? t = some (inside, rest)) : rest.length < t.length := by
  induction t generalizing inside with
  | nil => simp [tagInside?] at h
  | cons c t ih =>
    simp only [tagInside?] at h
    split at h
    · obtain ⟨rfl, rfl⟩ := Prod.mk.inj (Option.some.inj h); simp
    · split at h
      · simp at h
      · obtain ⟨p, hp, e⟩ := Option.map_eq_some_iff.1 h
        obtain ⟨rfl, rfl⟩ := Prod.mk.inj e
        exact Nat.lt_succ_of_lt (@ih p.1 hp)

theorem length_of_tag? {t inside rest : Text} (h : tag? t = some (inside, rest)) :
    rest.length < t.length := by
  cases t with
  | nil => simp [tag?] at h
  | cons c t =>
    simp only [tag?] at h
    split at h
    · obtain ⟨p, hp, e⟩ := Option.map_eq_some_iff.1 h
      obtain ⟨rfl, rfl⟩ := Prod.mk.inj e
      exact Nat.lt_succ_of_lt (@length_of_tagInside? t p.1 p.2 hp)
    · simp at h

/-- The part that a tag stands for. What follows an equals sign belongs to the style and
not to its name. -/
def partOfTag (inside : Text) : Part :=
  match before ['='] inside with
  | '/' :: style => .closing (if strip style = [] then [] else styleName style)
  | style => .opening (styleName style)

/-- Parts with a text in front of them that belongs to the same stretch between tags. -/
def glue (text : Text) : List Part → List Part
  | .plain more :: rest => .plain (text ++ more) :: rest
  | rest => .plain text :: rest

/-- The parts of a marked-up text that follows so many reverse solidi. A pair of them
before a tag stands for one, a single one keeps the tag as text. -/
def parts (solidi : Nat) (text : Text) : List Part :=
  match text with
  | [] => [.plain (List.replicate solidi '\\')]
  | c :: rest =>
    if c = '\\' then parts (solidi + 1) rest
    else if c = '[' then
      match _h : tag? rest with
      | some (inside, after) =>
        .plain (List.replicate (solidi / 2) '\\') ::
          (if solidi % 2 = 1 then .plain ('[' :: inside ++ [']']) else
            partOfTag inside) ::
          parts 0 after
      | none => glue (List.replicate (solidi - 1) '\\' ++ ['[']) (parts 0 rest)
    else glue (List.replicate solidi '\\' ++ [c]) (parts 0 rest)
termination_by text.length
decreasing_by
  · simp
  · exact Nat.lt_succ_of_lt (length_of_tag? _h)
  · simp
  · simp

/-- The text of parts, when the styles in `opened` are open, the one opened last first. -/
def plainParts (opened : List Text) : List Part → Option Text
  | [] => some []
  | .plain text :: rest => (plainParts opened rest).map (withPictures text ++ ·)
  | .opening style :: rest => plainParts (style :: opened) rest
  | .closing [] :: rest => if opened = [] then none else plainParts opened.tail rest
  | .closing style :: rest =>
    if style ∈ opened then plainParts (opened.erase style) rest else none

/-- Whether a character is a control that is not shown. -/
def isDropped (c : Char) : Bool := c.toNat ∈ [7, 8, 11, 12, 13]

/-- What is shown of a marked-up text; none when a tag closes a style that is not open. -/
def plain (text : Text) : Option Text :=
  (plainParts [] (parts 0 text)).map fun shown => shown.filter fun c => !isDropped c

end ImpactGraph.Console
