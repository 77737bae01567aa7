import Mathlib.Data.List.Nodup
import ImpactGraph.Build
import ImpactGraph.Proofs.Listing

/-!
# A run of a build is settled by what the indexer did

Only one thing passes from one file of a build to the next: the state of the
indexer. And of all that an indexer says, the graph keeps nothing but the
behaviour towards each file. So a build is a map over its files once these
behaviours are known, and that is how every other module looks at it.

`Meets` says which behaviours a run meets on its way through the files, and
`run_buildFrom` that the build is the map. The two theorems around it make the
view complete: every run meets some behaviours, because no file is asked about
twice, and whatever behaviours are written down, there is an indexer that
shows them.
-/

namespace ImpactGraph

open Indexer

namespace Builder

variable {σ : Type} {b : Builder} {indexer : Option (Service σ)}
  {behaviour : Text → Option Behaviour} {files : List Text}

theorem nodup_selected (b : Builder) (files : List Text) : (b.selected files).Nodup :=
  (Text.nodup_distinct _).filter _

/-- What the examination of a file comes to, given what the indexer did, if one was
asked. -/
def examinedGiven (b : Builder) (behaviour : Option Behaviour) (file : Text) : Examined :=
  Id.run (b.examineWith (fun file content =>
    pure (b.outcomeGiven behaviour file content)) file)

/-- The build in which the indexer behaves as given towards each file. -/
def buildGiven (b : Builder) (behaviour : Text → Option Behaviour) (files : List Text) :
    BuildResult :=
  assemble b.root ((b.ids files).filter b.isExcluded)
    ((b.selected files).map fun file => (file, b.examinedGiven (behaviour file) file))

theorem build_eq (b : Builder) (files : List Text) :
    b.build files = b.buildGiven (fun _ => none) files := rfl

/-- Whether a file has a text that the indexer is asked about. -/
def reads (b : Builder) (file : Text) : Bool := (b.workspace.readText file).isOk

/-- Asked about files one after another, the indexer behaves towards each of them as
given. -/
def Meets (b : Builder) (indexer : Option (Service σ))
    (behaviour : Text → Option Behaviour) :
    List Text → σ → Prop
  | [], _ => True
  | file :: files, s =>
    ((b.askIfAny indexer file).run s).1 = behaviour file ∧
      b.Meets indexer behaviour files ((b.askIfAny indexer file).run s).2

/-! ## The build is a map -/

theorem run_mapM_cons {α : Type} (f : Text → StateM σ α) (file : Text)
    (files : List Text) (s : σ) :
    (((file :: files).mapM f).run s).1 =
      ((f file).run s).1 :: ((files.mapM f).run ((f file).run s).2).1 := by
  rw [List.mapM_cons]
  rfl

theorem run_examineFrom_of_ok {file content : Text}
    (h : b.workspace.readText file = .ok content) (s : σ) :
    (b.examineFrom indexer file).run s =
      ((file, b.examinedGiven ((b.askIfAny indexer file).run s).1 file),
        ((b.askIfAny indexer file).run s).2) := by
  unfold examineFrom examinedGiven examineWith
  rw [h]
  rfl

theorem run_examineFrom_of_error {file : Text} {cause : FileError}
    (h : b.workspace.readText file = .error cause) (given : Option Behaviour) (s : σ) :
    (b.examineFrom indexer file).run s = ((file, b.examinedGiven given file), s) := by
  unfold examineFrom examinedGiven examineWith
  rw [h]
  cases cause <;> rfl

/-- The induction is on the files, whatever state they are met in: a file without a text
leaves the state alone, and one with a text moves it as `Meets` does. -/
theorem run_mapM_examineFrom {s : σ}
    (h : b.Meets indexer behaviour (files.filter b.reads) s) :
    ((files.mapM (b.examineFrom indexer)).run s).1 =
      files.map fun file => (file, b.examinedGiven (behaviour file) file) := by
  induction files generalizing s with
  | nil => rfl
  | cons file files ih =>
      rw [run_mapM_cons, List.map_cons]
      cases hread : b.workspace.readText file with
      | error cause =>
          have hskip : b.reads file = false := by rw [reads, hread]; rfl
          rw [List.filter_cons_of_neg (by simp [hskip])] at h
          rw [run_examineFrom_of_error hread (behaviour file), ih h]
      | ok content =>
          have htake : b.reads file = true := by rw [reads, hread]; rfl
          rw [List.filter_cons_of_pos htake] at h
          obtain ⟨hhead, htail⟩ := h
          rw [run_examineFrom_of_ok hread, hhead, ih htail]

/-- The files of a build that an indexer is asked about. -/
def askedAbout (b : Builder) (files : List Text) : List Text :=
  (b.selected files).filter b.reads

theorem run_buildFrom {s : σ} (h : b.Meets indexer behaviour (b.askedAbout files) s) :
    ((b.buildFrom indexer files).run s).1 = b.buildGiven behaviour files :=
  congrArg (assemble b.root ((b.ids files).filter b.isExcluded)) (run_mapM_examineFrom h)

/-! ## Every run meets some behaviours -/

theorem Meets.congr {behaviour' : Text → Option Behaviour} {s : σ}
    (h : b.Meets indexer behaviour files s)
    (heq : ∀ file ∈ files, behaviour file = behaviour' file) :
    b.Meets indexer behaviour' files s := by
  induction files generalizing s with
  | nil => exact trivial
  | cons file files ih =>
      refine ⟨h.1.trans (heq file List.mem_cons_self), ih h.2 fun f hf => ?_⟩
      exact heq f (List.mem_cons_of_mem _ hf)

/-- Where no file comes twice, what is written down about one does not touch the
others. -/
theorem exists_meets (b : Builder) (indexer : Option (Service σ))
    (hnodup : files.Nodup) (s : σ) : ∃ behaviour, b.Meets indexer behaviour files s := by
  induction files generalizing s with
  | nil => exact ⟨fun _ => none, trivial⟩
  | cons file files ih =>
      rw [List.nodup_cons] at hnodup
      obtain ⟨behaviour, h⟩ := ih hnodup.2 ((b.askIfAny indexer file).run s).2
      refine ⟨fun f => if f = file then ((b.askIfAny indexer file).run s).1
        else behaviour f, (if_pos rfl).symm, h.congr fun f hf => ?_⟩
      have hne : f ≠ file := fun he => hnodup.1 (he ▸ hf)
      exact (if_neg hne).symm

theorem nodup_askedAbout (b : Builder) (files : List Text) : (b.askedAbout files).Nodup :=
  (nodup_selected b files).filter _

theorem isSome_of_meets {service : Service σ} {s : σ}
    (h : b.Meets (some service) behaviour files s) {file : Text} (hfile : file ∈ files) :
    (behaviour file).isSome := by
  induction files generalizing s with
  | nil => exact absurd hfile List.not_mem_nil
  | cons first files ih =>
      rcases List.mem_cons.1 hfile with rfl | hmem
      · rw [← h.1]
        rfl
      · exact ih h.2 hmem

/-! ## All behaviours occur -/

/-- An indexer that behaves as it is told in its state, file after file. -/
def scripted : Service (List Behaviour) where
  isAvailable
    | .unavailable :: rest => (.ok false, rest)
    | .probeFails message :: rest => (.error message, rest)
    | script => (.ok true, script)
  symbols _ _
    | .symbolsFail message :: rest => (.error message, rest)
    | .answers symbols deps :: rest => (.ok symbols, .answers symbols deps :: rest)
    | script => (.ok [], script)
  dependencies _ _
    | .dependenciesFail message :: rest => (.error message, rest)
    | .answers _ deps :: rest => (.ok deps, rest)
    | script => (.ok [], script)

theorem ask_scripted (repository file : Text) (does : Behaviour) (rest : List Behaviour) :
    (scripted.ask repository file).run (does :: rest) = (does, rest) := by
  cases does <;> rfl

theorem run_askIfAny_scripted (b : Builder) (does : Behaviour) (rest : List Behaviour)
    (file : Text) : (b.askIfAny (some scripted) file).run (does :: rest) =
      (some does, rest) :=
  congrArg (Prod.map some id) (ask_scripted _ _ does rest)

theorem meets_scripted (b : Builder) (does : Text → Behaviour) (files : List Text) :
    b.Meets (some scripted) (fun file => some (does file)) files (files.map does) := by
  induction files with
  | nil => exact trivial
  | cons file files ih =>
      have hask := run_askIfAny_scripted b (does file) (files.map does) file
      rw [List.map_cons, Meets, hask]
      exact ⟨rfl, ih⟩

end Builder

/-! ## Runs -/

/-- What a builder leaves behind for a list of files, reading them by the rules alone or
asking an indexer in any state first. -/
inductive Builder.Runs (b : Builder) (files : List Text) : BuildResult → Prop
  | alone : b.Runs files (b.build files)
  | asking {σ : Type} (service : Service σ) (s : σ) :
    b.Runs files ((b.buildFrom (some service) files).run s).1

theorem Builder.Runs.exists_given {b : Builder} {files : List Text} {r : BuildResult}
    (h : b.Runs files r) : ∃ behaviour, r = b.buildGiven behaviour files := by
  cases h with
  | alone => exact ⟨_, build_eq b files⟩
  | asking service s =>
      obtain ⟨behaviour, hmeets⟩ :=
        exists_meets b (some service) (nodup_askedAbout b files) s
      exact ⟨behaviour, run_buildFrom hmeets⟩

end ImpactGraph
