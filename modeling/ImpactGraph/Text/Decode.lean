import ImpactGraph.Text.Quoted

/-!
# Bytes and text

UTF-8 is read one sequence at a time. The lead byte says how many bytes follow and narrows
the first of them, so overlong forms and surrogates are faults at their second byte. A
fault covers the longest run of bytes that could still have begun a character. Sources are
read leniently, one replacement character for each fault; settings are read strictly, and
the first fault is reported.
-/

namespace ImpactGraph.Text

/-- What a lead byte promises: how many bytes follow, and the range of the first of
them. -/
structure Lead where
  following : Nat
  low : UInt8
  high : UInt8
  /-- The bits of the character that the lead byte holds. -/
  bits : Nat

/-- The promise of a byte that starts a character of more than one byte. -/
def lead? (b : UInt8) : Option Lead :=
  if 0xC2 ≤ b && b ≤ 0xDF then some ⟨1, 0x80, 0xBF, b.toNat - 0xC0⟩
  else if b = 0xE0 then some ⟨2, 0xA0, 0xBF, 0⟩
  else if b = 0xED then some ⟨2, 0x80, 0x9F, 0xD⟩
  else if 0xE1 ≤ b && b ≤ 0xEF then some ⟨2, 0x80, 0xBF, b.toNat - 0xE0⟩
  else if b = 0xF0 then some ⟨3, 0x90, 0xBF, 0⟩
  else if 0xF1 ≤ b && b ≤ 0xF3 then some ⟨3, 0x80, 0xBF, b.toNat - 0xF0⟩
  else if b = 0xF4 then some ⟨3, 0x80, 0x8F, 4⟩
  else none

/-- The following bytes that are in place, at most `n`, the first of them in a range of
its own. -/
def tails : Nat → UInt8 → UInt8 → List UInt8 → List UInt8
  | n + 1, low, high, b :: rest =>
    if low ≤ b && b ≤ high then b :: tails n 0x80 0xBF rest else []
  | _, _, _, _ => []

/-- Why bytes are no character. -/
inductive Malformed where
  | start
  | continuation
  | truncated
  deriving DecidableEq, Repr

/-- A fault: its cause, where it starts, and the bytes it covers. -/
structure Fault where
  cause : Malformed
  offset : Nat
  bytes : List UInt8

/-- The text from an offset on, each fault taken out and reported in its place. -/
def pieces (offset : Nat) (bytes : List UInt8) : List (Except Fault Char) :=
  match bytes with
  | [] => []
  | b :: rest =>
    if b < 0x80 then .ok (Char.ofNat b.toNat) :: pieces (offset + 1) rest
    else
      match lead? b with
      | none => .error ⟨.start, offset, [b]⟩ :: pieces (offset + 1) rest
      | some lead =>
        let taken := tails lead.following lead.low lead.high rest
        let left := rest.drop taken.length
        let piece :=
          if taken.length = lead.following then
            let code := taken.foldl (fun n b => n * 64 + (b.toNat - 0x80)) lead.bits
            .ok (Char.ofNat code)
          else
            .error ⟨if left = [] then .truncated else .continuation, offset, b :: taken⟩
        piece :: pieces (offset + 1 + taken.length) left
termination_by bytes.length
decreasing_by all_goals simp_wf; try omega

/-- What is said about a fault. -/
def Fault.message (f : Fault) : Text :=
  let hexByte (b : UInt8) : Text := hex 2 b.toNat
  let cause := match f.cause with
    | .start => "invalid start byte".toList
    | .continuation => "invalid continuation byte".toList
    | .truncated => "unexpected end of data".toList
  let place := match f.bytes with
    | [b] => "byte 0x".toList ++ hexByte b ++ " in position ".toList ++ ofNat f.offset
    | bytes => "bytes in position ".toList ++ ofNat f.offset ++ ['-'] ++
        ofNat (f.offset + bytes.length - 1)
  "\'utf-8\' codec can\'t decode ".toList ++ place ++ ": ".toList ++ cause

/-- The text of bytes, every fault replaced by U+FFFD. -/
def decodeLossy (bytes : List UInt8) : Text :=
  (pieces 0 bytes).map fun piece => match piece with
    | .ok c => c
    | .error _ => Char.ofNat 0xFFFD

/-- The text of bytes, or the first fault. -/
def decode (bytes : List UInt8) : Except Fault Text := (pieces 0 bytes).mapM id

/-- The bytes of a text. -/
def encode (text : Text) : List UInt8 := text.flatMap String.utf8EncodeChar

/-- A carriage return, alone or with a line feed, read as a line feed. -/
def unixLines : Text → Text
  | [] => []
  | '\r' :: '\n' :: rest => '\n' :: unixLines rest
  | c :: rest => (if c = '\r' then '\n' else c) :: unixLines rest

end ImpactGraph.Text
