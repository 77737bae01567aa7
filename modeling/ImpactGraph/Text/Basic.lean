/-!
# Text

A text is the list of its code points, so that offsets, lengths and order all count code
points and every law of lists is a law of texts. This module holds the operations the rest
of the library reads text with: cutting at a separator, trimming, and searching for a
part.
-/

namespace ImpactGraph

/-- A sequence of Unicode code points. -/
abbrev Text := List Char

instance : LawfulBEq Text := inferInstanceAs (LawfulBEq (List Char))

namespace Text

/-- The pieces between separators, in order. A text without a separator is one piece, so
the answer is never empty. -/
def split (sep : Char) : Text → List Text
  | [] => [[]]
  | c :: rest =>
    if c = sep then [] :: split sep rest
    else
      match split sep rest with
      | [] => [[c]]
      | piece :: pieces => (c :: piece) :: pieces

/-- The pieces put back together with a separator between neighbours. -/
def join (sep : Text) : List Text → Text
  | [] => []
  | [piece] => piece
  | piece :: pieces => piece ++ sep ++ join sep pieces

/-- Lines, each with its end. -/
def ended (lines : List Text) : Text := lines.flatMap (· ++ ['\n'])

/-- What stands before and after the first occurrence of a separator. -/
def cut (sep : Text) : Text → Option (Text × Text)
  | [] => if sep = [] then some ([], []) else none
  | c :: rest =>
    if sep.isPrefixOf (c :: rest) then some ([], (c :: rest).drop sep.length)
    else (cut sep rest).map fun parts => (c :: parts.1, parts.2)

/-- What stands before and after the last occurrence of a separator. -/
def cutLast (sep : Text) (text : Text) : Option (Text × Text) :=
  (cut sep.reverse text.reverse).map fun parts => (parts.2.reverse, parts.1.reverse)

/-- What stands before the first separator; the whole text when there is none. -/
def before (sep text : Text) : Text :=
  match cut sep text with
  | some parts => parts.1
  | none => text

/-- What stands after the first separator; nothing when there is none. -/
def after (sep text : Text) : Text :=
  match cut sep text with
  | some parts => parts.2
  | none => []

/-- What stands after the last separator; the whole text when there is none. -/
def afterLast (sep text : Text) : Text :=
  match cutLast sep text with
  | some parts => parts.2
  | none => text

/-- The pieces between separators that are texts themselves, found from the left. -/
def splitAtText (sep text : Text) : List Text :=
  match cut sep text with
  | none => [text]
  | some parts =>
    parts.1 :: (if _h : parts.2.length < text.length then splitAtText sep parts.2 else [])
termination_by text.length

/-- Whether a part occurs somewhere in a text. -/
def contains (part text : Text) : Bool := (cut part text).isSome

/-- A text without the longest run of such characters at its end. -/
def dropWhileEnd (p : Char → Bool) (text : Text) : Text :=
  (text.reverse.dropWhile p).reverse

/-- A text without the longest runs of such characters at both ends. -/
def trimWhile (p : Char → Bool) (text : Text) : Text := dropWhileEnd p (text.dropWhile p)

/-- The pieces of a text between runs of such characters; no piece is empty. -/
def fields (p : Char → Bool) : Text → List Text
  | [] => []
  | c :: rest =>
    if p c then fields p rest
    else
      match rest with
      | [] => [[c]]
      | d :: _ =>
        if p d then [c] :: fields p rest
        else
          match fields p rest with
          | [] => [[c]]
          | piece :: pieces => (c :: piece) :: pieces

/-- Whether a text ends with a given part. -/
def endsWith (text part : Text) : Bool := part.isSuffixOf text

/-- Whether a text starts with a given part. -/
def startsWith (text part : Text) : Bool := part.isPrefixOf text

/-- The order of texts by code point. -/
def le : Text → Text → Bool
  | [], _ => true
  | _ :: _, [] => false
  | a :: as, b :: bs => a.val < b.val || (a = b && le as bs)

/-- Texts in code-point order. -/
def sort (texts : List Text) : List Text := texts.mergeSort le

/-- A text put at the end of a list, unless the list holds it. -/
def addNew (seen : List Text) (text : Text) : List Text :=
  if text ∈ seen then seen else seen ++ [text]

/-- The first occurrence of each text, in order. -/
def distinct (texts : List Text) : List Text := texts.foldl addNew []

/-- The decimal digits of a number. -/
def ofNat (n : Nat) : Text := (toString n).toList

/-- The decimal digits of an integer, after a minus sign when it is negative. -/
def ofInt (n : Int) : Text := (toString n).toList

end Text

end ImpactGraph
