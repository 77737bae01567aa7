import Mathlib.Logic.Relation
import ImpactGraph.Proofs.Conversations
import ImpactGraph.Proofs.Fates

/-!
# Files examined side by side

One task examines one file, and a bounded number of tasks are in progress at a
time. A task reads its file, asks the indexer one question after another, lets
the rules find facts, tells the report, and then puts the outcome into a slot
of its own and counts itself. Between any two of these steps other tasks may
make theirs, so the report and the state of the indexer pass through the tasks
in any order.

The order shows only in the order of the report. A task can do nothing to the
slot of another, and what it puts into its own is settled by its file, as long
as the answers of the indexer are. `Follows` says so of one stage: every task
is on its way to the outcome of the examination of its file, and the report
holds what the tasks that are past telling have told, in some order. What a
step can do is looked up once, in `Replaces`, and everything that steps keep is
read off from there. At a stage where all tasks are finished `Follows` is the
statement about the whole build.
-/

namespace ImpactGraph

open Indexer

variable {σ : Type}

/-! ## Tasks -/

/-- How far a task is. -/
inductive Phase where
  | waiting
  | reading
  | asking (content : Text) (c : Conversation)
  | told (outcome : Option Outcome)
  | finished

namespace Phase

/-- Whether a task takes up room among those in progress. -/
def inProgress : Phase → Bool
  | reading | asking _ _ | told _ => true
  | waiting | finished => false

/-- Whether the report knows what became of the file. -/
def isTold : Phase → Bool
  | told _ | finished => true
  | waiting | reading | asking _ _ => false

/-- Whether nothing is left to do. -/
def isFinished : Phase → Bool
  | finished => true
  | _ => false

/-- The number of steps that may still come. -/
def left : Phase → Nat
  | waiting => 7
  | reading => 6
  | asking _ c => c.left + 2
  | told _ => 1
  | finished => 0

end Phase

/-- The examination of one file, with the slot for its outcome. -/
structure FileTask where
  file : Text
  phase : Phase := .waiting
  slot : Option Outcome := none

/-- A build on its way: its tasks, and what they share. -/
structure Stage (σ : Type) where
  tasks : List FileTask
  server : σ
  report : Report
  completed : Nat := 0
  /-- The calls that told of the progress, each with a number of files and their total. -/
  calls : List (Nat × Nat) := []

namespace Stage

/-- The number of tasks in progress. -/
def inProgress (stage : Stage σ) : Nat := stage.tasks.countP (·.phase.inProgress)

/-- The number of steps that may still come. -/
def left (stage : Stage σ) : Nat := stage.tasks.foldr (fun t n => t.phase.left + n) 0

/-- Whether all tasks are finished. -/
def Complete (stage : Stage σ) : Prop := ∀ t ∈ stage.tasks, t.phase = .finished

/-- What the build leaves behind after its last stage: the outcomes in the order of the
slots. -/
def result (root : Text) (stage : Stage σ) : BuildResult :=
  let outcomes := (stage.tasks.filterMap (·.slot)).filter (·.facts.isSome)
  { report := stage.report
    outcomes := outcomes
    examined := stage.completed
    graph := .ok ((outcomes.filterMap (·.facts)).foldl Graph.insert { root := root }) }

end Stage

namespace Builder

/-- The first stage: excluded files are told of, and there is a task for each of the
others. -/
def start (b : Builder) (files : List Text) (server : σ) : Stage σ where
  tasks := (b.selected files).map ({ file := · })
  server := server
  report :=
    ((b.ids files).filter b.isExcluded).foldl (·.recordSkipped · Report.excluded) {}

/-- How an examination ends, when a task can tell from its phase. -/
def verdict? (b : Builder) (file : Text) : Phase → Option Examined
  | .reading =>
    match b.workspace.readText file with
    | .error .missing => some .missing
    | _ => none
  | .asking content (.ended behaviour) =>
    some (examinedOf (b.outcomeGiven behaviour file content))
  | _ => none

/-- One task makes a step, and any task may that is able to. A task that waits needs room.
There is no step for a file that exists and cannot be read, which ends the whole build. -/
inductive Step (b : Builder) (indexer : Option (Service σ)) (limit : Nat) :
    Stage σ → Stage σ → Prop
  | begin {stage before t after} (htasks : stage.tasks = before ++ t :: after)
      (hphase : t.phase = .waiting) (hroom : stage.inProgress < limit) :
      Step b indexer limit stage
        { stage with tasks := before ++ { t with phase := .reading } :: after }
  | read {stage before t after content} (htasks : stage.tasks = before ++ t :: after)
      (hphase : t.phase = .reading) (hread : b.workspace.readText t.file = .ok content) :
      Step b indexer limit stage
        { stage with tasks := before ++
          { t with phase := .asking content .opening } :: after }
  | ask {stage before t after content c} (htasks : stage.tasks = before ++ t :: after)
      (hphase : t.phase = .asking content c) (hopen : c.isEnded = false) :
      Step b indexer limit stage
        { stage with
          tasks := before ++
            { t with
              phase := .asking content ((b.turn indexer t.file c).run stage.server).1 } ::
            after
          server := ((b.turn indexer t.file c).run stage.server).2 }
  | tell {stage before t after e} (htasks : stage.tasks = before ++ t :: after)
      (hverdict : b.verdict? t.file t.phase = some e) :
      Step b indexer limit stage
        { stage with
          tasks := before ++ { t with phase := .told e.outcome? } :: after
          report := note stage.report t.file e }
  | finish {stage before t after outcome} (htasks : stage.tasks = before ++ t :: after)
      (hphase : t.phase = .told outcome) :
      Step b indexer limit stage
        { stage with
          tasks := before ++ { t with phase := .finished, slot := outcome } :: after
          completed := stage.completed + 1
          calls := stage.calls ++ [(stage.completed + 1, stage.tasks.length)] }

/-- A stage that some schedule of a build comes to. -/
def Reaches (b : Builder) (indexer : Option (Service σ)) (limit : Nat) (files : List Text)
    (server : σ) (stage : Stage σ) : Prop :=
  Relation.ReflTransGen (b.Step indexer limit) (b.start files server) stage

end Builder

/-! ## What every step keeps -/

/-- A task is on its way to the outcome of its file. -/
def FileTask.Fits (b : Builder) (indexer : Option (Service σ))
    (behaviour : Option Behaviour) (t : FileTask) : Prop :=
  match t.phase with
  | .waiting | .reading => True
  | .asking content c =>
    b.workspace.readText t.file = .ok content ∧ b.Tends indexer t.file behaviour c
  | .told outcome => outcome = (b.examinedGiven behaviour t.file).outcome?
  | .finished => t.slot = (b.examinedGiven behaviour t.file).outcome?

/-- The files that the report knows of. -/
def Stage.told (stage : Stage σ) : List Text :=
  (stage.tasks.filter (·.phase.isTold)).map (·.file)

/-- A stage on the way to the build in which the indexer behaves as given. -/
structure Stage.Follows (b : Builder) (indexer : Option (Service σ)) (limit : Nat)
    (behaviour : Text → Option Behaviour) (files : List Text)
    (stage : Stage σ) : Prop where
  tasks : stage.tasks.map (·.file) = b.selected files
  fits : ∀ t ∈ stage.tasks, t.Fits b indexer (behaviour t.file)
  bounded : stage.inProgress ≤ limit
  report : ∃ order : List Text, order.Perm stage.told ∧
    stage.report =
      (order.map fun file => (file, b.examinedGiven (behaviour file) file)).foldl
      (fun r e => Builder.note r e.1 e.2) (b.start files stage.server).report
  completed : stage.completed = stage.tasks.countP (·.phase.isFinished)
  calls : stage.calls = (List.range stage.completed).map fun k =>
    (k + 1, stage.tasks.length)

namespace Builder

variable {b : Builder} {indexer : Option (Service σ)} {limit : Nat} {files : List Text}
  {behaviour : Text → Option Behaviour} {stage stage' : Stage σ}

theorem verdict?_eq {t : FileTask} {e : Examined} {given : Option Behaviour} (s : σ)
    (hfits : t.Fits b indexer given) (h : b.verdict? t.file t.phase = some e) :
    e = b.examinedGiven given t.file := by
  unfold FileTask.Fits at hfits
  unfold verdict? at h
  unfold examinedGiven examineWith
  split at h
  · next hphase =>
      split at h
      · next hread =>
          rw [hread]
          exact (Option.some.inj h).symm
      · exact absurd h nofun
  · next content given' hphase =>
      rw [hphase] at hfits
      rw [hfits.1, ← hfits.2.eq_of_ended s]
      exact (Option.some.inj h).symm
  · exact absurd h nofun

theorem follows_start (server : σ) :
    (b.start files server).Follows b indexer limit behaviour files where
  tasks := by
    rw [start, List.map_map]
    exact List.map_id _
  fits t ht := by
    obtain ⟨file, -, rfl⟩ := List.mem_map.1 ht
    exact trivial
  bounded := by
    refine Nat.le_trans (Nat.le_of_eq (List.countP_eq_zero.2 fun t ht => ?_))
      (Nat.zero_le limit)
    obtain ⟨file, -, rfl⟩ := List.mem_map.1 ht
    exact nofun
  report := by
    refine ⟨[], ?_, rfl⟩
    rw [Stage.told, List.filter_eq_nil_iff.2 fun t ht => ?_]
    · exact .nil
    · obtain ⟨file, -, rfl⟩ := List.mem_map.1 ht
      exact nofun
  completed := by
    refine (List.countP_eq_zero.2 fun t ht => ?_).symm
    obtain ⟨file, -, rfl⟩ := List.mem_map.1 ht
    exact nofun
  calls := rfl

/-! A step replaces one task by the same task in another phase. -/

section Replaced

variable {before after : List FileTask} {t t' : FileTask}

theorem countP_replaced (p : FileTask → Bool) (before after : List FileTask)
    (t t' : FileTask) :
    (before ++ t' :: after).countP p + (if p t then 1 else 0) =
      (before ++ t :: after).countP p + (if p t' then 1 else 0) := by
  simp only [List.countP_append, List.countP_cons]
  omega

theorem left_replaced (h : t'.phase.left < t.phase.left) :
    (before ++ t' :: after).foldr (fun t n => t.phase.left + n) 0 <
      (before ++ t :: after).foldr (fun t n => t.phase.left + n) 0 := by
  induction before with
  | nil => exact Nat.add_lt_add_right h _
  | cons first before ih => exact Nat.add_lt_add_left ih _

theorem told_replaced (hfile : t'.file = t.file)
    (hphase : t'.phase.isTold = t.phase.isTold) :
    ((before ++ t' :: after).filter (·.phase.isTold)).map (·.file) =
      ((before ++ t :: after).filter (·.phase.isTold)).map (·.file) := by
  simp only [List.filter_append, List.filter_cons, hphase]
  split <;> simp [hfile]

theorem perm_told_replaced (hfile : t'.file = t.file) (hold : t.phase.isTold = false)
    (hnew : t'.phase.isTold = true) :
    (((before ++ t' :: after).filter (·.phase.isTold)).map (·.file)).Perm
      (((before ++ t :: after).filter (·.phase.isTold)).map (·.file) ++ [t.file]) := by
  simp only [List.filter_append, List.filter_cons, hold, hnew, List.map_append, if_true,
    List.map_cons, hfile]
  rw [if_neg Bool.false_ne_true, List.append_assoc]
  exact (List.perm_append_singleton _ _).symm.append_left _

end Replaced

theorem one_lt_left_of_verdict? {file : Text} {phase : Phase} {e : Examined}
    (h : b.verdict? file phase = some e) : 1 < phase.left := by
  cases phase with
  | reading => exact Nat.lt_add_left 4 Nat.one_lt_two
  | asking content c => exact Nat.lt_add_left c.left Nat.one_lt_two
  | waiting => exact absurd h nofun
  | told outcome => exact absurd h nofun
  | finished => exact absurd h nofun

theorem isFinished_eq_false {phase : Phase} (h : phase.isTold = false) :
    phase.isFinished = false := by
  cases phase with
  | finished => exact absurd h Bool.noConfusion
  | _ => rfl

theorem inProgress_of_verdict? {file : Text} {phase : Phase} {e : Examined}
    (h : b.verdict? file phase = some e) : phase.inProgress = true ∧
      phase.isTold = false := by
  cases phase with
  | reading => exact ⟨rfl, rfl⟩
  | asking content c => exact ⟨rfl, rfl⟩
  | waiting => exact absurd h nofun
  | told outcome => exact absurd h nofun
  | finished => exact absurd h nofun

/-- What a step from one stage to the next does to the task that makes it, and what it
does because of that. -/
structure Replaces (b : Builder) (indexer : Option (Service σ)) (limit : Nat)
    (stage stage' : Stage σ) (t t' : FileTask) : Prop where
  file : t'.file = t.file
  left : t'.phase.left < t.phase.left
  fits : ∀ given, b.Tends indexer t.file given .opening → t.Fits b indexer given →
    t'.Fits b indexer given
  room : t'.phase.inProgress = true → t.phase.inProgress = true ∨ stage.inProgress < limit
  report : (t'.phase.isTold = t.phase.isTold ∧ stage'.report = stage.report) ∨
    (t.phase.isTold = false ∧ t'.phase.isTold = true ∧ ∃ e,
      b.verdict? t.file t.phase = some e ∧
      stage'.report = note stage.report t.file e)
  count : (t'.phase.isFinished = t.phase.isFinished ∧ stage'.completed = stage.completed ∧
      stage'.calls = stage.calls) ∨
    (t.phase.isFinished = false ∧ t'.phase.isFinished = true ∧
      stage'.completed = stage.completed + 1 ∧
      stage'.calls = stage.calls ++ [(stage.completed + 1, stage.tasks.length)])

/-- A step takes one task further and leaves the others as they are. -/
theorem Step.replaces (h : b.Step indexer limit stage stage') :
    ∃ before t t' after, stage.tasks = before ++ t :: after ∧ stage'.tasks =
      before ++ t' :: after ∧
      b.Replaces indexer limit stage stage' t t' := by
  cases h with
  | @begin before t after htasks hphase hroom =>
      exact ⟨before, t, _, after, htasks, rfl, {
        file := rfl
        left := by rw [hphase]; exact Nat.lt_succ_self 6
        fits := fun _ _ _ => trivial
        room := fun _ => .inr hroom
        report := .inl ⟨by rw [hphase]; rfl, rfl⟩
        count := .inl ⟨by rw [hphase]; rfl, rfl, rfl⟩ }⟩
  | @read before t after content htasks hphase hread =>
      exact ⟨before, t, _, after, htasks, rfl, {
        file := rfl
        left := by rw [hphase]; exact Nat.lt_succ_self 5
        fits := fun _ hopening _ => ⟨hread, hopening⟩
        room := fun _ => .inl (by rw [hphase]; rfl)
        report := .inl ⟨by rw [hphase]; rfl, rfl⟩
        count := .inl ⟨by rw [hphase]; rfl, rfl, rfl⟩ }⟩
  | @ask before t after content c htasks hphase hopen =>
      exact ⟨before, t, _, after, htasks, rfl, {
        file := rfl
        left := by rw [hphase]; exact Nat.add_lt_add_right (left_turn hopen _) 2
        fits := fun given _ ht => by
          rw [FileTask.Fits, hphase] at ht
          exact ⟨ht.1, ht.2.turn _⟩
        room := fun _ => .inl (by rw [hphase]; rfl)
        report := .inl ⟨by rw [hphase]; rfl, rfl⟩
        count := .inl ⟨by rw [hphase]; rfl, rfl, rfl⟩ }⟩
  | @tell before t after e htasks hverdict =>
      obtain ⟨hbusy, huntold⟩ := inProgress_of_verdict? hverdict
      exact ⟨before, t, _, after, htasks, rfl, {
        file := rfl
        left := one_lt_left_of_verdict? hverdict
        fits := fun given _ ht => by
          rw [verdict?_eq stage.server ht hverdict]
          exact rfl
        room := fun _ => .inl hbusy
        report := .inr ⟨huntold, rfl, e, hverdict, rfl⟩
        count := .inl ⟨(isFinished_eq_false huntold).symm, rfl, rfl⟩ }⟩
  | @finish before t after outcome htasks hphase =>
      exact ⟨before, t, _, after, htasks, rfl, {
        file := rfl
        left := by rw [hphase]; exact Nat.one_pos
        fits := fun given _ ht => by
          rw [FileTask.Fits, hphase] at ht
          exact ht
        room := nofun
        report := .inl ⟨by rw [hphase]; rfl, rfl⟩
        count := .inr ⟨by rw [hphase]; rfl, rfl, rfl, rfl⟩ }⟩

theorem Step.files_eq (h : b.Step indexer limit stage stage') :
    stage'.tasks.map (·.file) = stage.tasks.map (·.file) := by
  obtain ⟨before, t, t', after, htasks, htasks', hr⟩ := h.replaces
  rw [htasks, htasks', List.map_append, List.map_append, List.map_cons,
    List.map_cons, hr.file]

theorem Step.left_lt (h : b.Step indexer limit stage stage') :
    stage'.left < stage.left := by
  obtain ⟨before, t, t', after, htasks, htasks', hr⟩ := h.replaces
  rw [Stage.left, Stage.left, htasks, htasks']
  exact left_replaced hr.left

theorem Step.fits (h : b.Step indexer limit stage stage')
    (hopening : ∀ file, b.Tends indexer file (behaviour file) .opening)
    (hfits : ∀ t ∈ stage.tasks, t.Fits b indexer (behaviour t.file)) :
    ∀ t ∈ stage'.tasks, t.Fits b indexer (behaviour t.file) := by
  obtain ⟨before, t, t', after, htasks, htasks', hr⟩ := h.replaces
  rw [htasks, List.forall_mem_append, List.forall_mem_cons] at hfits
  rw [htasks', List.forall_mem_append, List.forall_mem_cons, hr.file]
  exact ⟨hfits.1, hr.fits _ (hopening t.file) hfits.2.1, hfits.2.2⟩

theorem Step.inProgress_le (h : b.Step indexer limit stage stage')
    (hle : stage.inProgress ≤ limit) : stage'.inProgress ≤ limit := by
  obtain ⟨before, t, t', after, htasks, htasks', hr⟩ := h.replaces
  have hcount := countP_replaced (·.phase.inProgress) before after t t'
  rw [← htasks, ← htasks'] at hcount
  change stage'.inProgress + _ = stage.inProgress + _ at hcount
  cases ht' : t'.phase.inProgress with
  | false =>
      simp only [ht', Bool.false_eq_true, if_false] at hcount
      omega
  | true =>
      -- Either the task took up room before, or it has just found some.
      rcases hr.room ht' with ht | hroom
      · simp only [ht, ht', if_true] at hcount
        omega
      · simp only [ht', if_true] at hcount
        omega

/-- Only a task that tells changes the report, by what it tells. -/
theorem Step.told (h : b.Step indexer limit stage stage') :
    (stage'.told = stage.told ∧ stage'.report = stage.report) ∨
    ∃ t ∈ stage.tasks, ∃ e, b.verdict? t.file t.phase = some e ∧
      stage'.told.Perm (stage.told ++ [t.file]) ∧ stage'.report =
        note stage.report t.file e := by
  obtain ⟨before, t, t', after, htasks, htasks', hr⟩ := h.replaces
  rw [Stage.told, Stage.told, htasks, htasks']
  rcases hr.report with ⟨hsame, hreport⟩ | ⟨hold, hnew, e, hverdict, hreport⟩
  · exact .inl ⟨told_replaced hr.file hsame, hreport⟩
  · exact .inr ⟨t, List.mem_append_right _ List.mem_cons_self, e, hverdict,
      perm_told_replaced hr.file hold hnew, hreport⟩

/-- Only a task that finishes is counted. -/
theorem Step.counts (h : b.Step indexer limit stage stage') :
    (stage'.tasks.countP (·.phase.isFinished) = stage.tasks.countP (·.phase.isFinished) ∧
      stage'.completed = stage.completed ∧ stage'.calls = stage.calls) ∨
    (stage'.tasks.countP (·.phase.isFinished) =
      stage.tasks.countP (·.phase.isFinished) + 1 ∧
      stage'.completed = stage.completed + 1 ∧
      stage'.calls = stage.calls ++ [(stage.completed + 1, stage.tasks.length)]) := by
  obtain ⟨before, t, t', after, htasks, htasks', hr⟩ := h.replaces
  have hcount := countP_replaced (·.phase.isFinished) before after t t'
  rw [← htasks, ← htasks'] at hcount
  rcases hr.count with ⟨hsame, hrest⟩ | ⟨hold, hnew, hrest⟩
  · rw [hsame] at hcount
    exact .inl ⟨Nat.add_right_cancel hcount, hrest⟩
  · rw [hold, hnew] at hcount
    exact .inr ⟨hcount, hrest⟩

theorem Step.follows (hstep : b.Step indexer limit stage stage')
    (hopening : ∀ file, b.Tends indexer file (behaviour file) .opening)
    (h : stage.Follows b indexer limit behaviour files) :
    stage'.Follows b indexer limit behaviour files where
  tasks := hstep.files_eq.trans h.tasks
  fits := hstep.fits hopening h.fits
  bounded := hstep.inProgress_le h.bounded
  report := by
    obtain ⟨order, hperm, hreport⟩ := h.report
    rcases hstep.told with ⟨htold, hsame⟩ | ⟨t, ht, e, hverdict, htold, hnote⟩
    · exact ⟨order, by rwa [htold], hsame.trans hreport⟩
    -- The order in the report is the order of telling, so a new file comes last.
    · refine ⟨order ++ [t.file], (hperm.append_right _).trans htold.symm, ?_⟩
      rw [hnote, hreport, verdict?_eq stage.server (h.fits t ht) hverdict,
        List.map_append, List.foldl_append]
      rfl
  completed := by
    rcases hstep.counts with ⟨hcount, hcompleted, -⟩ | ⟨hcount, hcompleted, -⟩
    · rw [hcompleted, hcount, h.completed]
    · rw [hcompleted, hcount, h.completed]
  calls := by
    have hlength : stage'.tasks.length = stage.tasks.length := by
      simpa using congrArg List.length hstep.files_eq
    rcases hstep.counts with ⟨-, hcompleted, hcalls⟩ | ⟨-, hcompleted, hcalls⟩
    · rw [hcalls, hcompleted, hlength, h.calls]
    · rw [hcalls, hcompleted, hlength, h.calls, List.range_succ, List.map_append]
      rfl

theorem Reaches.follows {server : σ} (h : b.Reaches indexer limit files server stage)
    (hopening : ∀ file, b.Tends indexer file (behaviour file) .opening) :
    stage.Follows b indexer limit behaviour files := by
  induction h with
  | refl => exact follows_start server
  | tail hreach hstep ih => exact hstep.follows hopening ih

/-! ## Every schedule can be completed -/

/-- As long as a task is unfinished, some task is able to make a step: one in progress, or
else one that waits, because then there is room. -/
theorem exists_step (hlimit : 0 < limit)
    (hread : ∀ file ∈ stage.tasks.map (·.file), ∀ cause,
      b.workspace.readText file = .error cause → cause = .missing)
    (h : ¬ stage.Complete) : ∃ stage', b.Step indexer limit stage stage' := by
  by_cases hbusy : ∃ t ∈ stage.tasks, t.phase.inProgress = true
  · obtain ⟨t, ht, hphase⟩ := hbusy
    obtain ⟨before, after, htasks⟩ := List.append_of_mem ht
    cases hp : t.phase with
    | waiting => exact absurd (hp ▸ hphase) nofun
    | finished => exact absurd (hp ▸ hphase) nofun
    | told outcome => exact ⟨_, .finish htasks hp⟩
    | reading =>
        cases hcontent : b.workspace.readText t.file with
        | ok content => exact ⟨_, .read htasks hp hcontent⟩
        | error cause =>
            rw [hread t.file (List.mem_map_of_mem ht) cause hcontent] at hcontent
            have hverdict : b.verdict? t.file t.phase = some .missing := by
              rw [hp, verdict?, hcontent]
            exact ⟨_, .tell htasks hverdict⟩
    | asking content c =>
        cases hc : c.isEnded with
        | false => exact ⟨_, .ask htasks hp hc⟩
        | true =>
            cases c with
            | ended given =>
                have hverdict : b.verdict? t.file t.phase =
                    some (examinedOf (b.outcomeGiven given t.file content)) := by
                  rw [hp, verdict?]
                exact ⟨_, .tell htasks hverdict⟩
            | _ => exact absurd hc Bool.noConfusion
  · -- With nothing in progress there is room, because the limit is positive.
    have hroom : stage.inProgress < limit := by
      rwa [Stage.inProgress, List.countP_eq_zero.2 fun t ht hphase =>
        hbusy ⟨t, ht, hphase⟩]
    obtain ⟨t, ht, hunfinished⟩ : ∃ t ∈ stage.tasks, t.phase ≠ .finished := by
      simpa [Stage.Complete] using h
    obtain ⟨before, after, htasks⟩ := List.append_of_mem ht
    cases hp : t.phase with
    | waiting => exact ⟨_, .begin htasks hp hroom⟩
    | finished => exact absurd hp hunfinished
    | _ => exact absurd ⟨t, ht, by rw [hp]; rfl⟩ hbusy

/-- The induction is on the number of steps that may still come. -/
theorem exists_complete (hlimit : 0 < limit)
    (hread : ∀ file ∈ stage.tasks.map (·.file), ∀ cause,
      b.workspace.readText file = .error cause → cause = .missing) :
    ∃ last, Relation.ReflTransGen (b.Step indexer limit) stage last ∧ last.Complete := by
  induction hn : stage.left using Nat.strongRecOn generalizing stage with
  | ind n ih =>
      by_cases hdone : stage.Complete
      · exact ⟨stage, .refl, hdone⟩
      · obtain ⟨next, hstep⟩ : ∃ next, b.Step indexer limit stage next :=
          exists_step hlimit hread hdone
        obtain ⟨last, hreach, hlast⟩ :=
          ih next.left (hn ▸ hstep.left_lt) (by rwa [hstep.files_eq]) rfl
        exact ⟨last, .head hstep hreach, hlast⟩

end Builder

/-! ## What a complete stage holds -/

namespace Stage

variable {b : Builder} {indexer : Option (Service σ)} {limit : Nat} {files : List Text}
  {behaviour : Text → Option Behaviour} {stage : Stage σ}

theorem Follows.told_eq (h : stage.Follows b indexer limit behaviour files)
    (hdone : stage.Complete) : stage.told = b.selected files := by
  rw [told, List.filter_eq_self.2, h.tasks]
  intro t ht
  rw [hdone t ht]
  rfl

theorem Follows.completed_eq (h : stage.Follows b indexer limit behaviour files)
    (hdone : stage.Complete) : stage.completed = (b.selected files).length := by
  rw [h.completed, List.countP_eq_length.2, ← h.tasks, List.length_map]
  intro t ht
  rw [hdone t ht]
  rfl

theorem Follows.slots_eq (h : stage.Follows b indexer limit behaviour files)
    (hdone : stage.Complete) :
    stage.tasks.filterMap (·.slot) =
      (b.selected files).filterMap fun file =>
        (b.examinedGiven (behaviour file) file).outcome? := by
  rw [← h.tasks, List.filterMap_map]
  refine List.filterMap_congr fun t ht => ?_
  have hfits := h.fits t ht
  rwa [FileTask.Fits, hdone t ht] at hfits

/-- A list to which every file only adds ends up with the same entries in every order. -/
theorem Follows.perm_list {α : Type} {list : Report → List α}
    (h : stage.Follows b indexer limit behaviour files) (hdone : stage.Complete)
    (hnote : ∀ r file e, list (Builder.note r file e) =
      list r ++ list (Builder.note {} file e)) :
    (list stage.report).Perm (list (b.buildGiven behaviour files).report) := by
  obtain ⟨order, hperm, hreport⟩ := h.report
  rw [h.told_eq hdone] at hperm
  rw [hreport, Builder.foldl_note hnote]
  show (_ : List α).Perm (list (List.foldl _ _ _))
  rw [Builder.foldl_note hnote]
  exact ((hperm.map _).flatMap_right _).append_left _

/-- Every outcome has facts, so none is left out. -/
theorem Follows.result_eq {g : Graph} (h : stage.Follows b indexer limit behaviour files)
    (hdone : stage.Complete) (hg : (b.buildGiven behaviour files).graph = .ok g) :
    (stage.result b.root).outcomes = (b.buildGiven behaviour files).outcomes ∧
      (stage.result b.root).graph = (b.buildGiven behaviour files).graph := by
  obtain ⟨houtcomes, hgraph⟩ := Builder.outcomes_of_assemble_eq_ok hg
  have hslots : (stage.tasks.filterMap (·.slot)).filter (·.facts.isSome) =
      (b.buildGiven behaviour files).outcomes := by
    rw [h.slots_eq hdone, Builder.buildGiven, houtcomes, List.filterMap_map]
    refine List.filter_eq_self.2 fun o ho => ?_
    obtain ⟨file, hfile, hdo⟩ := List.mem_filterMap.1 ho
    obtain ⟨facts, hfacts, -⟩ :=
      (Builder.reports_examinedGiven _ (Builder.isId_of_mem_selected hfile) o hdo).facts
    rw [hfacts]
    rfl
  refine ⟨hslots, ?_⟩
  rw [hg, hgraph, ← houtcomes]
  show Except.ok ((List.filterMap _ (List.filter _ _)).foldl _ _) = _
  rw [hslots]
  rfl

end Stage

namespace Builder

variable {b : Builder} {indexer : Option (Service σ)} {limit : Nat} {files : List Text}
  {behaviour : Text → Option Behaviour}

theorem missing_of_mem_selected {g : Graph} {file : Text} {cause : FileError}
    (hg : (b.buildGiven behaviour files).graph = .ok g) (hfile : file ∈ b.selected files)
    (hread : b.workspace.readText file = .error cause) : cause = .missing := by
  have hkept := List.mem_filter.1 hfile
  by_contra hne
  refine fate_ne_unreadable hg hkept.1 ?_
  rw [fate, if_neg (by simpa using hkept.2), hread]
  cases cause with
  | missing => exact absurd rfl hne
  | _ => rfl

/-- However the examinations of a build interleave, with at most `limit` of them in
progress, they come to an end, and then the graph and the outcomes are those of the files
examined one after another, the report holds the same in some order, and the progress was
told file by file. -/
theorem schedules_agree {s : σ} {stage : Stage σ} {g : Graph}
    (hsteady : ∀ service ∈ indexer, service.Steady) (hlimit : 0 < limit)
    (hg : ((b.buildFrom indexer files).run s).1.graph = .ok g)
    (hstage : b.Reaches indexer limit files s stage) :
    stage.inProgress ≤ limit ∧
    (∃ last, Relation.ReflTransGen (b.Step indexer limit) stage last ∧ last.Complete) ∧
    (stage.Complete →
      (stage.result b.root).graph = .ok g ∧
      (stage.result b.root).outcomes = ((b.buildFrom indexer files).run s).1.outcomes ∧
      stage.report.processed.Perm ((b.buildFrom indexer files).run s).1.report.processed ∧
      stage.report.skipped.Perm ((b.buildFrom indexer files).run s).1.report.skipped ∧
      stage.report.failures.Perm ((b.buildFrom indexer files).run s).1.report.failures ∧
      stage.calls = (List.range (b.selected files).length).map
        fun k => (k + 1, (b.selected files).length)) := by
  obtain ⟨behaviour, hmeets, hopening⟩ := exists_steady b hsteady s
  rw [run_buildFrom (hmeets _ s)] at hg ⊢
  have hfollows := hstage.follows hopening
  refine ⟨hfollows.bounded, exists_complete hlimit ?_, fun hdone => ?_⟩
  · rw [hfollows.tasks]
    exact fun file hfile cause => missing_of_mem_selected hg hfile
  · obtain ⟨houtcomes, hgraph⟩ := hfollows.result_eq hdone hg
    refine ⟨hgraph.trans hg, houtcomes, hfollows.perm_list hdone processed_note,
      hfollows.perm_list hdone skipped_note, hfollows.perm_list hdone failures_note, ?_⟩
    rw [hfollows.calls, hfollows.completed_eq hdone, ← hfollows.tasks, List.length_map]

/-- An indexer that counts the questions and answers all of them alike. -/
def countingQuestions : Service Nat where
  isAvailable n := (.ok true, n + 1)
  symbols _ _ n := (.ok [], n + 1)
  dependencies _ _ n := (.ok [], n + 1)

theorem steady_countingQuestions : countingQuestions.Steady :=
  ⟨fun _ _ => rfl, fun _ _ _ _ => rfl, fun _ _ _ _ => rfl⟩

/-- Of two files the second is begun first, and then both are in progress. -/
theorem schedules_agree_of_twoFiles :
    ∃ middle last : Stage Nat, ∃ g,
      (forRoot twoFiles ['.'] {}).Reaches (some countingQuestions) 2
        ["b.py".toList, "./a.py".toList] 0 middle ∧ middle.inProgress = 2 ∧
      Relation.ReflTransGen ((forRoot twoFiles ['.'] {}).Step (some countingQuestions) 2)
        middle
        last ∧
      (last.result (forRoot twoFiles ['.'] {}).root).graph = .ok g ∧
      g.nodes.map (·.file) = ["/p/b.py".toList, "/p/a.py".toList] ∧
      last.calls = [(1, 2), (2, 2)] := by
  obtain ⟨g, hg, hfiles⟩ : ∃ g,
    (((forRoot twoFiles ['.'] {}).buildFrom (some countingQuestions)
      ["b.py".toList, "./a.py".toList]).run 0).1.graph = .ok g ∧
      g.nodes.map (·.file) = ["/p/b.py".toList, "/p/a.py".toList] := by
    refine ok_of_map_eq_ok (g := fun g : Graph => g.nodes.map (·.file)) ?_
    decide +kernel
  have hselected : (forRoot twoFiles ['.'] {}).selected ["b.py".toList, "./a.py".toList] =
      ["/p/b.py".toList, "/p/a.py".toList] := by
    decide +kernel
  obtain ⟨middle, hstage, htwo⟩ : ∃ middle : Stage Nat,
    (forRoot twoFiles ['.'] {}).Reaches
      (some countingQuestions) 2 ["b.py".toList, "./a.py".toList] 0 middle ∧
      middle.inProgress = 2 := by
    have htasks :
        ((forRoot twoFiles ['.'] {}).start ["b.py".toList, "./a.py".toList] 0).tasks =
          [{ file := "/p/b.py".toList }] ++ { file := "/p/a.py".toList } :: [] := by
      rw [start, hselected]
      rfl
    have hroom : ((forRoot twoFiles ['.'] {}).start ["b.py".toList, "./a.py".toList]
        0).inProgress < 2 := by
      rw [Stage.inProgress, htasks]
      exact Nat.two_pos
    have hfirst : (forRoot twoFiles ['.'] {}).Step (some countingQuestions) 2 _ _ :=
      .begin htasks rfl hroom
    exact ⟨_, .tail (.single hfirst)
      (.begin (List.nil_append (_ :: _)).symm rfl Nat.one_lt_two), rfl⟩
  have hsteady : ∀ service ∈ some countingQuestions, service.Steady := by
    rintro _ ⟨⟩
    exact steady_countingQuestions
  obtain ⟨-, ⟨last, hrest, hlast⟩, -⟩ := schedules_agree hsteady Nat.two_pos hg hstage
  obtain ⟨hgraph, -, -, -, -, hcalls⟩ :=
    (schedules_agree hsteady Nat.two_pos hg (hstage.trans hrest)).2.2 hlast
  rw [hselected] at hcalls
  exact ⟨middle, last, g, hstage, htwo, hrest, hgraph, hfiles, hcalls⟩

end Builder

end ImpactGraph
