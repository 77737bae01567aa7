import ImpactGraph.Indexer.Client

/-!
# Any indexer

What is asked about files is not tied to a connection. An indexer is anything that says
whether it is there and answers two questions about a file of a repository; each of the
three may fail with a message. The questions are asked in a fixed order and the first
failure ends them, so an indexer does one of five things about a file.
-/

namespace ImpactGraph.Indexer

variable {σ : Type}

/-- The questions that an indexer is asked, over a state of its own. -/
structure Service (σ : Type) where
  isAvailable : StateM σ (Except Text Bool)
  symbols (repository file : Text) : StateM σ (Except Text (List Symbol))
  dependencies (repository file : Text) : StateM σ (Except Text (List Dependency))

/-- What an indexer does when it is asked about a file. -/
inductive Behaviour where
  | unavailable
  | probeFails (message : Text)
  | symbolsFail (message : Text)
  | dependenciesFail (message : Text)
  | answers (symbols : List Symbol) (deps : List Dependency)

/-- Whether both questions were answered. -/
def Behaviour.isAnswer : Behaviour → Bool
  | answers _ _ => true
  | _ => false

/-- Asks an indexer about a file of a repository. -/
def Service.ask (service : Service σ) (repository file : Text) : StateM σ Behaviour := do
  match ← service.isAvailable with
  | .error message => return .probeFails message
  | .ok false => return .unavailable
  | .ok true =>
    match ← service.symbols repository file with
    | .error message => return .symbolsFail message
    | .ok symbols =>
      match ← service.dependencies repository file with
      | .error message => return .dependenciesFail message
      | .ok deps => return .answers symbols deps

/-- A connection as an indexer; a trouble is told by its message. -/
def Client.service (c : Client σ) : Service σ where
  isAvailable := (·.mapError Trouble.message) <$> c.isAvailable
  symbols repository file := (·.mapError Trouble.message) <$> c.symbols repository file
  dependencies repository file :=
    (·.mapError Trouble.message) <$> c.dependencies repository file

instance : Coe (Client σ) (Service σ) := ⟨Client.service⟩

end ImpactGraph.Indexer
