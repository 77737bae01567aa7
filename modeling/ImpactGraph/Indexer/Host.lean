import ImpactGraph.Indexer.Percent

/-!
# Hosts

A host is named, or given by its numbers. What looks like numbers has to be the number of
a host: four bytes in decimal with points between them, or eight groups of hexadecimal
digits with colons between them and brackets around. Of the groups, one run of zeros may
be left out, and the last two may be written like the four bytes.
-/

namespace ImpactGraph.Indexer.Host

open Text

/-- Why a text is no host. -/
inductive Flaw where
  | bytes (host : Text)
  | groups (host : Text)

/-- What is said about a text that is no host. -/
def Flaw.message : Flaw → Text
  | bytes host => "Invalid IPv4 address: ".toList ++ quoted host
  | groups host => "Invalid IPv6 address: ".toList ++ quoted host

/-- A byte in decimal, without zeros in front. -/
def isByte (t : Text) : Bool :=
  t ≠ [] && t.all Char.isDigit && decide (t.length ≤ 3) &&
    (t = ['0'] || t.head? ≠ some '0') &&
  decide (t.foldl (fun n c => 10 * n + (c.toNat - 48)) 0 ≤ 255)

/-- Four bytes with points between them. -/
def isFourBytes (t : Text) : Bool :=
  let bytes := split '.' t
  bytes.length = 4 && bytes.all isByte

/-- One to four hexadecimal digits. -/
def isGroup (t : Text) : Bool :=
  t ≠ [] && decide (t.length ≤ 4) && (hexNumber? t).isSome

/-- How many groups texts are; nothing when one of them is none. Where it is allowed, the
last text may be four bytes, which are two groups. -/
def groups? (bytesAllowed : Bool) : List Text → Option Nat
  | [] => some 0
  | [last] =>
    if isGroup last then some 1
    else if bytesAllowed && isFourBytes last then some 2
    else none
  | text :: texts =>
    if isGroup text then (groups? bytesAllowed texts).map (· + 1) else none

/-- What stands between the colons of a text; an empty text holds nothing. -/
def betweenColons (t : Text) : List Text := if t = [] then [] else split ':' t

/-- Eight groups, or fewer and two colons where zeros are left out. -/
def isEightGroups (t : Text) : Bool :=
  match cut "::".toList t with
  | none => groups? true (betweenColons t) = some 8
  | some (front, back) =>
    match groups? false (betweenColons front), groups? true (betweenColons back) with
    | some n, some m => decide (n + m ≤ 7)
    | _, _ => false

/-- Eight groups, and perhaps a percent sign and the zone in which they hold. -/
def isEightGroupsInZone (t : Text) : Bool :=
  match cut ['%'] t with
  | none => isEightGroups t
  | some (groups, zone) => zone ≠ [] && zone.all (· ≠ '%') && isEightGroups groups

/-- Runs of digits with one character between neighbours, so many of them and one more. -/
def hasRuns : Nat → Text → Bool
  | 0, t => t ≠ [] && t.all Char.isDigit
  | n + 1, t =>
    (List.range (t.takeWhile Char.isDigit).length).any fun i => hasRuns n (t.drop (i + 2))

/-- A host as an address holds it, its name in lower case. -/
def read (t : Text) : Except Flaw Text :=
  if hasRuns 3 t then if isFourBytes t then .ok t else .error (.bytes t)
  else if startsWith t ['['] && endsWith t [']'] then
    if isEightGroupsInZone t.tail.dropLast then .ok t else .error (.groups t)
  else .ok (encodeExcept isHostChar (t.map Char.toLower))

end ImpactGraph.Indexer.Host
