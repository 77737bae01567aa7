import ImpactGraph.Proofs.BuildRuns

/-!
# Questions one by one

What an indexer does about a file is found out by up to three questions. When
files are examined side by side, other questions come between them, and the
indexer may be in any state when the next one is asked. This does no harm to
an indexer whose answers depend on the question and the file alone: `Tends`
says that whatever states the remaining questions meet, they end in one
behaviour, and `tends_opening` that it is the behaviour of asking all at once.
-/

namespace ImpactGraph

open Indexer

variable {σ : Type}

/-- How far the questions about a file have come. In the end it is known what the indexer
did, if there is one. -/
inductive Conversation where
  | opening
  | welcomed
  | knowing (symbols : List Symbol)
  | ended (behaviour : Option Behaviour)

/-- Whether all questions are asked. -/
def Conversation.isEnded : Conversation → Bool
  | ended _ => true
  | _ => false

/-- The number of questions that may still come. -/
def Conversation.left : Conversation → Nat
  | opening => 3
  | welcomed => 2
  | knowing _ => 1
  | ended _ => 0

/-- Asks the next question about a file of a repository. -/
def Indexer.Service.turn (service : Service σ) (repository file : Text) :
    Conversation → StateM σ Conversation
  | .opening => do
    match ← service.isAvailable with
    | .error message => return .ended (some (.probeFails message))
    | .ok false => return .ended (some .unavailable)
    | .ok true => return .welcomed
  | .welcomed => do
    match ← service.symbols repository file with
    | .error message => return .ended (some (.symbolsFail message))
    | .ok symbols => return .knowing symbols
  | .knowing symbols => do
    match ← service.dependencies repository file with
    | .error message => return .ended (some (.dependenciesFail message))
    | .ok deps => return .ended (some (.answers symbols deps))
  | .ended behaviour => return .ended behaviour

/-- Every answer of the indexer is the same in all its states, so it depends on nothing
but the question and the file. -/
structure Indexer.Service.Steady (service : Service σ) : Prop where
  isAvailable : ∀ s s', (service.isAvailable.run s).1 = (service.isAvailable.run s').1
  symbols : ∀ repository file s s',
    ((service.symbols repository file).run s).1 =
      ((service.symbols repository file).run s').1
  dependencies : ∀ repository file s s',
    ((service.dependencies repository file).run s).1 =
      ((service.dependencies repository file).run s').1

theorem run_bind {α β : Type} (x : StateM σ α) (f : α → StateM σ β) (s : σ) :
    (x >>= f).run s = (f (x.run s).1).run (x.run s).2 := rfl

theorem run_pure {α : Type} (a : α) (s : σ) : ((pure a : StateM σ α).run s).1 = a := rfl

/-- Three questions asked in any states of a steady indexer come to what it does in one
go. -/
theorem Indexer.Service.Steady.turns {service : Service σ} (h : service.Steady)
    (repository file : Text) (s s₁ s₂ s₃ : σ) :
    ((service.turn repository file ((service.turn repository file
      ((service.turn repository file .opening).run s₁).1).run s₂).1).run s₃).1 =
        .ended (some ((service.ask repository file).run s).1) := by
  -- The two runs part ways in the state of the indexer at once, so only their answers are
  -- compared.
  rw [Service.turn, Service.ask, run_bind, run_bind, h.isAvailable s s₁]
  generalize (service.isAvailable.run s).2 = s'
  rcases (service.isAvailable.run s₁).1 with message | _ | _
  · rfl
  · rfl
  · dsimp only
    rw [run_pure, Service.turn, run_bind, run_bind, h.symbols repository file s' s₂]
    generalize ((service.symbols repository file).run s').2 = s''
    rcases ((service.symbols repository file).run s₂).1 with message | symbols
    · rfl
    · dsimp only
      rw [run_pure, Service.turn, run_bind, run_bind,
        h.dependencies repository file s'' s₃]
      rcases ((service.dependencies repository file).run s₃).1 with message | deps <;> rfl

/-- Asks the next question about a file of a build, if there is an indexer. -/
def Builder.turn (b : Builder) (indexer : Option (Service σ)) (file : Text) :
    Conversation → StateM σ Conversation
  | .ended behaviour => return .ended behaviour
  | c =>
    match indexer with
    | none => return .ended none
    | some service =>
      service.turn b.extractor.root
        (Path.relativeTo b.extractor.workspace.cwd b.extractor.root file) c

/-- Whatever happens to the indexer between the questions, they end in a behaviour. -/
def Builder.Tends (b : Builder) (indexer : Option (Service σ)) (file : Text)
    (behaviour : Option Behaviour) (c : Conversation) : Prop :=
  ∀ s₁ s₂ s₃, ((b.turn indexer file ((b.turn indexer file
    ((b.turn indexer file c).run s₁).1).run s₂).1).run s₃).1 = .ended behaviour

namespace Builder

variable {b : Builder} {indexer : Option (Service σ)} {files : List Text} {file : Text}
  {behaviour : Option Behaviour} {c : Conversation}

theorem Tends.turn (h : b.Tends indexer file behaviour c) (s : σ) :
    b.Tends indexer file behaviour ((b.turn indexer file c).run s).1 := by
  intro s₁ s₂ s₃
  rw [h s s₁ s₂]
  rfl

theorem Tends.eq_of_ended {behaviour' : Option Behaviour}
    (h : b.Tends indexer file behaviour (.ended behaviour')) (s : σ) :
    behaviour' = behaviour :=
  Conversation.ended.inj (h s s s)

theorem turn_some (b : Builder) (service : Service σ) (file : Text) (c : Conversation) :
    b.turn (some service) file c = service.turn b.extractor.root
      (Path.relativeTo b.extractor.workspace.cwd b.extractor.root file) c := by
  cases c <;> rfl

theorem tends_opening (b : Builder)
    (h : ∀ service ∈ indexer, service.Steady) (file : Text) (s : σ) :
    b.Tends indexer file ((b.askIfAny indexer file).run s).1 .opening := by
  intro s₁ s₂ s₃
  cases indexer with
  | none => rfl
  | some service =>
      rw [turn_some, turn_some, turn_some, (h service rfl).turns _ _ s]
      rfl

/-- Towards each file a steady indexer behaves in one way, all at once and question by
question. -/
theorem exists_steady (b : Builder) (h : ∀ service ∈ indexer, service.Steady) (s : σ) :
    ∃ behaviour : Text → Option Behaviour,
      (∀ files s, b.Meets indexer behaviour files s) ∧
      ∀ file, b.Tends indexer file (behaviour file) .opening := by
  refine ⟨fun file => ((b.askIfAny indexer file).run s).1, fun files t => ?_,
    fun file => b.tends_opening h file s⟩
  induction files generalizing t with
  | nil => exact trivial
  | cons file files ih =>
      refine ⟨?_, ih _⟩
      have hended := b.tends_opening h file t s s s
      rw [b.tends_opening h file s] at hended
      exact Conversation.ended.inj hended.symm

/-- Each answer brings the end nearer. -/
theorem left_turn (h : c.isEnded = false) (s : σ) :
    ((b.turn indexer file c).run s).1.left < c.left := by
  cases indexer with
  | none =>
      cases c with
      | opening => exact Nat.succ_pos 2
      | welcomed => exact Nat.succ_pos 1
      | knowing symbols => exact Nat.succ_pos 0
      | ended given => exact absurd h Bool.noConfusion
  | some service =>
      rw [turn_some]
      cases c with
      | opening =>
          rw [Service.turn, run_bind]
          rcases (service.isAvailable.run s).1 with message | _ | _
          · exact Nat.succ_pos 2
          · exact Nat.succ_pos 2
          · exact Nat.lt_succ_self 2
      | welcomed =>
          rw [Service.turn, run_bind]
          rcases ((service.symbols _ _).run s).1 with message | symbols
          · exact Nat.succ_pos 1
          · exact Nat.lt_succ_self 1
      | knowing symbols =>
          rw [Service.turn, run_bind]
          rcases ((service.dependencies _ _).run s).1 with message | deps <;>
            exact Nat.succ_pos 0
      | ended given => exact absurd h Bool.noConfusion

end Builder

end ImpactGraph
