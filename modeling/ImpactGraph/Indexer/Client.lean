import ImpactGraph.Failure
import ImpactGraph.Indexer.Address
import ImpactGraph.Json.Reader
import ImpactGraph.Lenient.Reading
import ImpactGraph.Settings.Basic

/-!
# The indexer

A service that may know more about a file than its text shows. It is asked over a
connection whose state is a parameter, so that an answer may depend on what was asked
before. What it sends is checked leniently; everything that can go wrong is a cause with
its message.
-/

namespace ImpactGraph.Indexer

open Text Lenient

/-- How the sending of a request ends. -/
inductive Reply where
  | answer (status : Nat) (body : Text)
  /-- The service could not be reached, or took too long. -/
  | unreachable (message : Text)
  /-- What came back could not be understood. -/
  | unintelligible (message : Text)
  /-- Nothing was sent, since what was asked for makes no address. -/
  | misdirected (flaw : Address.Flaw)
  /-- Sending failed in a way that is not foreseen, under a name of its own. -/
  | broken (name message : Text)

/-- Why a question has no answer. -/
inductive Trouble where
  | status (n : Nat) (url : Text)
  | unreachable (message url : Text)
  | notJson (message url : Text)
  | malformedSymbols (file : Text)
  | malformedDependencies (file : Text)
  | unintelligible (message : Text)
  | misdirected (flaw : Address.Flaw)
  | broken (name message : Text)

namespace Trouble

/-- What is said about a question without an answer. -/
def message : Trouble → Text
  | status n _ => "Indexer returned ".toList ++ ofNat n
  | unreachable m _ => "Indexer not available: ".toList ++ m
  | notJson m _ => "Indexer returned invalid JSON: ".toList ++ m
  | malformedSymbols _ => "Malformed symbol payload".toList
  | malformedDependencies _ => "Malformed dependency payload".toList
  | unintelligible m => m
  | misdirected flaw => flaw.message
  | broken _ m => m

/-- The failure that is reported for a trouble, when it is a foreseen one. -/
def failure? (t : Trouble) : Option Failure :=
  let about (name : String) (v : Text) : Option Failure :=
    some ⟨.indexer, t.message, [(name.toList, .text v)]⟩
  match t with
  | status _ url | unreachable _ url | notJson _ url => about "url" url
  | malformedSymbols file | malformedDependencies file => about "file_path" file
  | unintelligible _ | misdirected _ | broken _ _ => none

end Trouble

/-- A symbol of a file. -/
structure Symbol where
  name : Text
  kind : Text
  signature : Text
  startLine : Int
  endLine : Int
  isExported : Bool

/-- A dependency of a file. -/
structure Dependency where
  source : Text
  target : Text
  kind : Text

/-- A symbol from the fields of a table. -/
def Symbol.check : Value → Checked Symbol
  | .table fields =>
    Symbol.mk
      <$> required fields ["name".toList] text
      <*> required fields ["type".toList, "kind".toList] text
      <*> required fields ["signature".toList] text
      <*> required fields ["start_line".toList] integer
      <*> required fields ["end_line".toList] integer
      <*> required fields ["is_exported".toList] boolean
  | _ => .fault .table

/-- The kinds of dependencies. -/
def dependencyKinds : List Text := ["import".toList, "require".toList, "export".toList]

/-- One of the kinds of dependencies, exactly as it is written. -/
def dependencyKind : Value → Checked Text
  | .text t => if t ∈ dependencyKinds then .ok t else .fault .choice
  | _ => .fault .choice

/-- A dependency from the fields of a table. -/
def Dependency.check : Value → Checked Dependency
  | .table fields =>
    Dependency.mk
      <$> required fields ["source".toList, "source_file".toList] text
      <*> required fields ["target".toList, "target_file".toList] text
      <*> required fields ["type".toList, "kind".toList] dependencyKind
  | _ => .fault .table

/-- A hash from the fields of a table. -/
def hashCheck : Value → Checked Text
  | .table fields => required fields ["hash".toList] text
  | _ => .fault .table

/-- A connection to the indexer: its address as it was given, the directory that it names,
and how a request is sent. -/
structure Client (σ : Type) where
  baseUrl : Text
  directory : Address
  send : Text → StateM σ Reply

/-- The relative address of what an endpoint has about a file. The repository is one
component of it, so its slashes are encoded, too; the file goes in as it is. -/
def fileUrl (endpoint repository file : Text) : Text :=
  '/' :: endpoint ++ '/' :: component repository ++ '/' :: file

namespace Client

variable {σ : Type}

/-- A client for an address; slashes at its end do not count. -/
def ofSettings (s : IndexerSettings) (send : Text → StateM σ Reply) :
    Except Address.Flaw (Client σ) := do
  let baseUrl := dropWhileEnd (· = '/') s.baseUrl
  let directory ← (← Address.read baseUrl).asDirectory
  return { baseUrl, directory, send }

/-- A reply to what was asked at an address. An answer of which the address does not say
how it was reached is not understood. -/
def received (address : Address) : Reply → Reply
  | .answer status body =>
    if Address.namesScheme address.toText then .answer status body
    else .unintelligible ("unknown url type: ".toList ++ quoted address.toText)
  | reply => reply

/-- Asks for an address below the one of the indexer. -/
def get (c : Client σ) (url : Text) : StateM σ Reply :=
  match c.directory.below url with
  | .error flaw => pure (.misdirected flaw)
  | .ok address => received address <$> c.send address.target

/-- A body without the mark of its byte order. -/
def dropMark (body : Text) : Text :=
  if body.head? = some (Char.ofNat 0xFEFF) then body.tail else body

/-- The data that is sent back for an address. -/
def getValue (c : Client σ) (url : Text) : StateM σ (Except Trouble Value) := do
  match ← c.get url with
  | .answer status body =>
    if status < 200 || 300 ≤ status then return .error (.status status url)
    let body := dropMark body
    match Json.read body with
    | .ok v => return .ok v
    | .error e => return .error (.notJson (e.message body) url)
  | .unreachable m => return .error (.unreachable m url)
  | .unintelligible m => return .error (.notJson m url)
  | .misdirected flaw => return .error (.misdirected flaw)
  | .broken name m => return .error (.broken name m)

/-- Whether the indexer answers. -/
def isAvailable (c : Client σ) : StateM σ (Except Trouble Bool) := do
  match ← c.get "/health".toList with
  | .answer status _ => return .ok (status = 200)
  | .unreachable _ => return .ok false
  | .unintelligible m => return .error (.unintelligible m)
  | .misdirected flaw => return .error (.misdirected flaw)
  | .broken name m => return .error (.broken name m)

/-- The items of a list that is sent back for a file. -/
def getList {α : Type} (c : Client σ) (endpoint repository file : Text)
    (check : Value → Checked α) (trouble : Trouble) :
    StateM σ (Except Trouble (List α)) := do
  match ← c.getValue (fileUrl endpoint repository file) with
  | .error t => return .error t
  | .ok v =>
    match Lenient.list check v with
    | .ok items => return .ok items
    | .error _ => return .error trouble

/-- The symbols of a file. -/
def symbols (c : Client σ) (repository file : Text) :
    StateM σ (Except Trouble (List Symbol)) :=
  c.getList "extract".toList repository file Symbol.check (.malformedSymbols file)

/-- The dependencies of a file. -/
def dependencies (c : Client σ) (repository file : Text) :
    StateM σ (Except Trouble (List Dependency)) :=
  c.getList "extract-deps".toList repository file Dependency.check
    (.malformedDependencies file)

/-- The hash of a file's content, when the indexer has one. -/
def hash? (c : Client σ) (repository file : Text) :
    StateM σ (Except Trouble (Option Text)) := do
  match ← c.getValue (fileUrl "hash".toList repository file) with
  | .error (.broken name m) => return .error (.broken name m)
  | .error (.misdirected flaw) => return .error (.misdirected flaw)
  | .error _ => return .ok none
  | .ok v =>
    match hashCheck v with
    | .ok t => return .ok (some t)
    | .error _ => return .ok none

end Client

end ImpactGraph.Indexer
