import ImpactGraph.Indexer.Host
import ImpactGraph.Text.Digit

/-!
# Addresses

An address has a scheme, an authority, a path, a query and a fragment, and every part but
the path may be left out. Each part is encoded when the address is read. With a scheme or
an authority the `.` and `..` of the path are resolved; without both the path must not
look like a part that was left out.

What is sent to a host is the target: the path and the query. The addresses below an
address have the same scheme, authority and fragment, and a longer target.
-/

namespace ImpactGraph.Indexer

open Text

/-- An address in its parts, each of them encoded. A scheme or an authority that is left
out is empty. -/
structure Address where
  scheme : Text
  /-- The user, the host and the port. -/
  authority : Text
  path : Text
  query : Option Text
  fragment : Option Text

namespace Address

/-- Why a text is no address. -/
inductive Flaw where
  | tooLong
  | partTooLong (part : String)
  | control (character : Char) (offset : Nat)
  | host (flaw : Host.Flaw)
  | port (text : Text)
  | likeAuthority
  | likeScheme

/-- What is said about a text that is no address. -/
def Flaw.message : Flaw → Text
  | tooLong => "URL too long".toList
  | partTooLong part => "URL component '".toList ++ part.toList ++ "' too long".toList
  | control c offset =>
    "Invalid non-printable ASCII character in URL, ".toList ++ quoted [c] ++
      " at position ".toList ++ ofNat offset ++ ['.']
  | host flaw => flaw.message
  | port text => "Invalid port: ".toList ++ quoted text
  | likeAuthority => "Relative URLs cannot have a path starting with '//'".toList
  | likeScheme => "Relative URLs cannot have a path starting with ':'".toList

/-- The most characters of an address, and of each of its parts. -/
def mostCharacters : Nat := 65536

/-- A control character of ASCII, which no address holds, and its offset. -/
def control? (text : Text) : Option (Char × Nat) :=
  text.zipIdx.find? fun c => decide (c.1.toNat < 0x20) || c.1.toNat = 0x7F

/-- A letter of ASCII and letters, digits, plus signs, minus signs and points after it; or
nothing. -/
def isScheme : Text → Bool
  | [] => true
  | first :: rest =>
    first.isAlpha && rest.all fun c => c.isAlphanum || c ∈ ['+', '-', '.']

/-- The scheme of a text and what stands after it. -/
def cutScheme (text : Text) : Text × Text :=
  match cut [':'] text with
  | some (scheme, rest) => if isScheme scheme then (scheme, rest) else ([], text)
  | none => ([], text)

/-- The authority of a text without a scheme, which stands after two slashes, and the
path. -/
def cutAuthority (text : Text) : Text × Text :=
  if startsWith text "//".toList then (text.drop 2).span (· ≠ '/')
  else ([], text)

/-- The host of an authority without a user, and what stands after it. A host in brackets
may hold colons. -/
def cutHost (text : Text) : Text × Text :=
  match startsWith text ['['], cutLast [']'] text with
  | true, some (groups, rest) => (groups ++ [']'], rest)
  | _, _ => text.span (· ≠ ':')

/-- The port after a host, if there is one. -/
def readPort (text : Text) : Except Flaw (Option Int) :=
  let text := if startsWith text [':'] then text.tail else text
  if text = [] then .ok none
  else
    match integer? text with
    | some n => .ok (some n)
    | none => .error (.port text)

/-- An authority as an address holds it. -/
def readAuthority (text : Text) : Except Flaw Text := do
  let (user, rest) := (cutLast ['@'] text).getD ([], text)
  let (host, rest) := cutHost rest
  let host ← (Host.read host).mapError .host
  let port ← readPort rest
  return (if user = [] then [] else encodeExcept isUserChar user ++ ['@']) ++ host ++
    match port with
    | some n => ':' :: ofInt n
    | none => []

/-- The components of a path with `.` left out and `..` taking back the one before it; the
empty one in front stays. -/
def resolveDots : List Text → List Text → List Text
  | kept, [] => kept.reverse
  | kept, c :: rest =>
    if c = ['.'] then resolveDots kept rest
    else if c = ['.', '.'] then resolveDots (if kept = [[]] then kept else kept.tail) rest
    else resolveDots (c :: kept) rest

/-- A path with its dots resolved. -/
def plainPath (path : Text) : Text := join ['/'] (resolveDots [] (split '/' path))

/-- An address with a path and a query in place of its own. -/
def withPath (a : Address) (path : Text) (query : Option Text) : Except Flaw Address :=
  let query := query.map (encodeExcept isQueryChar)
  if a.scheme ≠ [] || a.authority ≠ [] then
    .ok { a with path := encodeExcept isPathChar (plainPath path), query }
  else if startsWith path "//".toList then .error .likeAuthority
  else if startsWith path [':'] then .error .likeScheme
  else .ok { a with path := encodeExcept isPathChar path, query }

/-- A text cut at the first of some character, where there is one. -/
def cutAt (c : Char) (text : Text) : Text × Option Text :=
  match cut [c] text with
  | some (front, back) => (front, some back)
  | none => (text, none)

/-- The address that a text writes. -/
def read (text : Text) : Except Flaw Address := do
  if mostCharacters < text.length then throw .tooLong
  if let some (c, offset) := control? text then throw (.control c offset)
  let (text, fragment) := cutAt '#' text
  let (text, query) := cutAt '?' text
  let (scheme, rest) := cutScheme text
  let (authority, path) := cutAuthority rest
  let authority ← readAuthority authority
  let fragment := (fragment.filter (· ≠ [])).map (encodeExcept isFragmentChar)
  let bare : Address :=
    { scheme := scheme.map Char.toLower, authority, path := [], query := none, fragment }
  bare.withPath path query

/-- What is sent for an address. An empty path is sent as a slash. -/
def target (a : Address) : Text :=
  (if a.path = [] then ['/'] else a.path) ++
    match a.query with
    | some query => '?' :: query
    | none => []

/-- An address with another target. -/
def withTarget (a : Address) (target : Text) : Except Flaw Address := do
  let (path, query) := cutAt '?' target
  if mostCharacters < path.length then throw (.partTooLong "path")
  if mostCharacters < (query.getD []).length then throw (.partTooLong "query")
  a.withPath path query

/-- The address of a directory: its target ends with a slash. -/
def asDirectory (a : Address) : Except Flaw Address :=
  if endsWith a.target ['/'] then .ok a else a.withTarget (a.target ++ ['/'])

/-- The address below that of a directory which a relative one names. -/
def below (a : Address) (relative : Text) : Except Flaw Address := do
  let relative ← read relative
  a.withTarget (a.target ++ relative.target.dropWhile (· = '/'))

/-- An address as a text. -/
def toText (a : Address) : Text :=
  (if a.scheme = [] then [] else a.scheme ++ [':']) ++
  (if a.authority = [] then [] else "//".toList ++ a.authority) ++ a.path ++
  (match a.query with
    | some query => '?' :: query
    | none => []) ++
  match a.fragment with
  | some fragment => '#' :: fragment
  | none => []

/-- Whether a text names a way to what it is about: a colon stands in it, and something
but no slash before. -/
def namesScheme (text : Text) : Bool :=
  match cut [':'] text with
  | some (front, _) => front ≠ [] && front.all (· ≠ '/')
  | none => false

end Address

end ImpactGraph.Indexer
