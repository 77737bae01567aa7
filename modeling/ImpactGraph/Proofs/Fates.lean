import ImpactGraph.Proofs.BuiltGraph

/-!
# What becomes of each file of a build

A build asks three questions about an id, in this order: is it excluded, can it
be read, do the rules have facts about its text. The answers do not depend on
the other files nor on an indexer, so every id has one fate, and a report is a
sorting of the ids by fate. Three equations say so, one for each list of the
report; that no id is lost and none is told of twice follows from them, because
filters for different fates do not overlap.

The equations come from one observation about reports: what a file adds to a
list does not depend on what the list holds already.
-/

namespace ImpactGraph

/-- What becomes of a file. -/
inductive Fate where
  | excluded
  | missing
  | unreadable
  | failed
  | processed
  deriving DecidableEq

namespace Builder

variable {b : Builder} {files : List Text} {file : Text}

/-- What becomes of a file in every build of a builder. -/
def fate (b : Builder) (file : Text) : Fate :=
  if b.isExcluded file then .excluded
  else
    match b.workspace.readText file with
    | .error .missing => .missing
    | .error _ => .unreadable
    | .ok content =>
      match b.extractor.extract file content with
      | .ok _ => .processed
      | .error _ => .failed

/-- The text of a file can be read, and the rules have no answer for it. -/
def ExtractionFails (b : Builder) (file : Text) : Prop :=
  ∃ content e, b.workspace.readText file = .ok content ∧
    b.extractor.extract file content = .error e

theorem fate_eq_excluded_iff : b.fate file = .excluded ↔ b.isExcluded file = true := by
  unfold fate
  split
  · next h => exact iff_of_true rfl h
  · next h =>
      refine iff_of_false ?_ h
      split
      · exact nofun
      · exact nofun
      · split <;> exact nofun

theorem fate_eq_missing_iff :
    b.fate file = .missing ↔
      b.isExcluded file = false ∧ b.workspace.readText file = .error .missing := by
  unfold fate
  split
  · next h => exact iff_of_false nofun (by simp [h])
  · next h =>
      rw [and_iff_right (by simpa using h)]
      split
      · next hread => exact iff_of_true rfl hread
      · next cause hne hread =>
          exact iff_of_false nofun fun he => hne (Except.error.inj (hread.symm.trans he))
      · next content hread =>
          refine iff_of_false ?_ (by simp [hread])
          split <;> exact nofun

theorem fate_eq_failed_iff :
    b.fate file = .failed ↔ b.isExcluded file = false ∧ b.ExtractionFails file := by
  unfold fate ExtractionFails
  split
  · next h => exact iff_of_false nofun (by simp [h])
  · next h =>
      rw [and_iff_right (by simpa using h)]
      split
      · next hread => exact iff_of_false nofun (by simp [hread])
      · next cause hne hread => exact iff_of_false nofun (by simp [hread])
      · next content hread =>
          split
          · next facts hx => exact iff_of_false nofun (by simp [hread, hx])
          · next u hx => exact iff_of_true rfl ⟨content, u, hread, hx⟩

/-! ## What a file adds to a report -/

theorem processed_note (r : Report) (file : Text) (e : Examined) :
    (note r file e).processed = r.processed ++ (note {} file e).processed := by
  cases e <;>
    simp [note, Report.recordProcessed, Report.recordSkipped, Report.recordFailure]

theorem skipped_note (r : Report) (file : Text) (e : Examined) :
    (note r file e).skipped = r.skipped ++ (note {} file e).skipped := by
  cases e <;>
    simp [note, Report.recordProcessed, Report.recordSkipped, Report.recordFailure]

theorem failures_note (r : Report) (file : Text) (e : Examined) :
    (note r file e).failures = r.failures ++ (note {} file e).failures := by
  cases e <;>
    simp [note, Report.recordProcessed, Report.recordSkipped, Report.recordFailure]

/-- A list to which every file only adds holds, after some files, what each of them
adds. -/
theorem foldl_note {α : Type} {list : Report → List α}
    (h : ∀ r file e, list (note r file e) = list r ++ list (note {} file e))
    (examined : List (Text × Examined)) (r : Report) :
    list (examined.foldl (fun r e => note r e.1 e.2) r) =
      list r ++ examined.flatMap fun e => list (note {} e.1 e.2) := by
  induction examined generalizing r with
  | nil => exact (List.append_nil _).symm
  | cons e examined ih =>
      rw [List.foldl_cons, ih, h, List.append_assoc, List.flatMap_cons]

theorem foldl_recordSkipped (files : List Text) (reason : Text) (r : Report) :
    files.foldl (fun r file => r.recordSkipped file reason) r =
      { r with skipped := r.skipped ++ files.map (⟨·, reason⟩) } := by
  induction files generalizing r with
  | nil => simp
  | cons file files ih => rw [List.foldl_cons, ih]; simp [Report.recordSkipped]

/-! ## Reports sort the ids by fate -/

theorem examinedGiven_cases (h : b.isExcluded file = false)
    (behaviour : Option Indexer.Behaviour) :
    (b.fate file = .missing ∧ b.examinedGiven behaviour file = .missing) ∨
    (b.fate file = .unreadable ∧ ∃ cause, b.examinedGiven behaviour file =
      .unreadable cause) ∨
    (b.fate file = .failed ∧ ∃ message, b.examinedGiven behaviour file =
      .failed message) ∨
    (b.fate file = .processed ∧ ∃ o, b.examinedGiven behaviour file = .done o) := by
  unfold fate examinedGiven examineWith
  rw [if_neg (by simp [h])]
  cases hread : b.workspace.readText file with
  | error cause =>
      cases cause with
      | missing => exact .inl ⟨rfl, rfl⟩
      | notDirectory | isDirectory | denied | noDevice | nullByte =>
          exact .inr (.inl ⟨rfl, _, rfl⟩)
  | ok content =>
      obtain ⟨tell, houtcome⟩ : ∃ tell, b.outcomeGiven behaviour file content =
          (b.extractor.extract file content).map tell := by
        cases behaviour with
        | none => exact ⟨_, rfl⟩
        | some behaviour => exact ⟨_, rfl⟩
      dsimp only
      rw [houtcome]
      cases b.extractor.extract file content with
      | error e => exact .inr (.inr (.inl ⟨rfl, _, rfl⟩))
      | ok facts => exact .inr (.inr (.inr ⟨rfl, _, rfl⟩))

theorem flatMap_ite_singleton {α : Type} (p : Text → Bool) (f : Text → α)
    (files : List Text) :
    (files.flatMap fun file => if p file then [f file] else []) =
      (files.filter p).map f := by
  induction files with
  | nil => rfl
  | cons file files ih =>
      rw [List.flatMap_cons, ih]
      cases hp : p file with
      | false => rw [List.filter_cons_of_neg (by simp [hp])]; rfl
      | true => rw [List.filter_cons_of_pos hp]; rfl

theorem filter_selected (files : List Text) {fate : Fate} (hne : fate ≠ .excluded) :
    (b.selected files).filter (b.fate · = fate) =
      (b.ids files).filter (b.fate · = fate) := by
  rw [selected, List.filter_filter]
  refine List.filter_congr fun file _ => ?_
  cases hx : b.isExcluded file with
  | false => simp
  | true => simp [fate_eq_excluded_iff.2 hx, Ne.symm hne]

/-- A list of a report, once it is known what a file that is read adds to it. -/
theorem list_buildGiven {α : Type} {list : Report → List α} {fate : Fate} {f : Text → α}
    {behaviour : Text → Option Indexer.Behaviour} (hne : fate ≠ .excluded)
    (hnote : ∀ r file e, list (note r file e) = list r ++ list (note {} file e))
    (hadds : ∀ file, b.isExcluded file = false →
      list (note {} file (b.examinedGiven (behaviour file) file)) =
        if b.fate file = fate then [f file] else []) :
    list (b.buildGiven behaviour files).report =
      list
        { skipped := ((b.ids files).filter b.isExcluded).map (⟨·, Report.excluded⟩) } ++
        ((b.ids files).filter (b.fate · = fate)).map f := by
  have hread : ∀ file ∈ b.selected files, b.isExcluded file = false := by
    intro file hmem
    simpa using (List.mem_filter.1 hmem).2
  show list
    (((b.selected files).map _).foldl
      _ (((b.ids files).filter b.isExcluded).foldl _ {})) = _
  rw [foldl_note hnote, foldl_recordSkipped, List.flatMap_map,
    ← filter_selected files hne,
    ← flatMap_ite_singleton (fun file => decide (b.fate file = fate))]
  refine congrArg (list _ ++ ·) (List.flatMap_congr fun file hmem => ?_)
  rw [hadds file (hread file hmem)]
  simp only [decide_eq_true_eq]

variable {behaviour : Text → Option Indexer.Behaviour}

theorem processed_buildGiven :
    (b.buildGiven behaviour files).report.processed =
      (b.ids files).filter (b.fate · = .processed) := by
  rw [← List.map_id ((b.ids files).filter _)]
  refine list_buildGiven nofun processed_note fun file h => ?_
  rcases examinedGiven_cases h (behaviour file) with
    ⟨hf, he⟩ | ⟨hf, _, he⟩ | ⟨hf, _, he⟩ | ⟨hf, _, he⟩ <;> rw [hf, he] <;> rfl

theorem skipped_buildGiven :
    (b.buildGiven behaviour files).report.skipped =
      ((b.ids files).filter b.isExcluded).map (⟨·, Report.excluded⟩) ++
        ((b.ids files).filter (b.fate · = .missing)).map (⟨·, Report.notFound⟩) := by
  refine list_buildGiven nofun skipped_note fun file h => ?_
  rcases examinedGiven_cases h (behaviour file) with
    ⟨hf, he⟩ | ⟨hf, _, he⟩ | ⟨hf, _, he⟩ | ⟨hf, _, he⟩ <;> rw [hf, he] <;> rfl

theorem failedFiles_note (r : Report) (file : Text) (e : Examined) :
    (note r file e).failedFiles = r.failedFiles ++ (note {} file e).failedFiles := by
  simp only [Report.failedFiles]
  rw [failures_note, List.filterMap_append]

theorem failedFiles_buildGiven :
    (b.buildGiven behaviour files).report.failedFiles =
      ((b.ids files).filter (b.fate · = .failed)).map .text := by
  refine list_buildGiven nofun failedFiles_note fun file h => ?_
  rcases examinedGiven_cases h (behaviour file) with
    ⟨hf, he⟩ | ⟨hf, _, he⟩ | ⟨hf, _, he⟩ | ⟨hf, _, he⟩ <;> rw [hf, he] <;> rfl

theorem kind_of_mem_failures_note {file : Text} {e : Examined} {failure : Failure}
    (h : failure ∈ (note {} file e).failures) : failure.kind = .extraction := by
  cases e with
  | failed message =>
      rw [List.mem_singleton.1 h]
      rfl
  | missing => exact absurd h List.not_mem_nil
  | unreadable cause => exact absurd h List.not_mem_nil
  | done o => exact absurd h List.not_mem_nil

theorem kind_of_mem_failures {failure : Failure}
    (h : failure ∈ (b.buildGiven behaviour files).report.failures) :
    failure.kind = .extraction := by
  change failure ∈ Report.failures (List.foldl _ _ _) at h
  rw [foldl_note failures_note, foldl_recordSkipped, List.nil_append] at h
  obtain ⟨e, -, hmem⟩ := List.mem_flatMap.1 h
  exact kind_of_mem_failures_note hmem

end Builder

/-- A report of nothing but failed extractions. -/
theorem Report.exitCode_of_extractions {r : Report}
    (h : ∀ failure ∈ r.failures, failure.kind = .extraction) :
    r.exitCode = if r.failedFiles = [] then .success else .partialSuccess := by
  have hcodes : ∀ code ∈ r.failures.map (·.kind.exitCode), code = .partialSuccess := by
    intro code hmem
    obtain ⟨failure, hf, rfl⟩ := List.mem_map.1 hmem
    rw [h failure hf]
    rfl
  have hempty : r.failedFiles = [] ↔ r.failures.map (·.kind.exitCode) = [] := by
    rw [failedFiles, List.filterMap_eq_nil_iff, List.map_eq_nil_iff]
    constructor
    · intro hnone
      refine List.eq_nil_iff_forall_not_mem.2 fun failure hf => ?_
      have hsome := hnone failure hf
      rw [Failure.failedFile?, if_pos (h failure hf)] at hsome
      exact absurd hsome nofun
    · intro hnil failure hf
      rw [hnil] at hf
      exact absurd hf List.not_mem_nil
  have hsettings : ExitCode.settings ∉ r.failures.map (·.kind.exitCode) :=
    fun hmem => nomatch hcodes _ hmem
  have hfatal : ExitCode.fatal ∉ r.failures.map (·.kind.exitCode) :=
    fun hmem => nomatch hcodes _ hmem
  simp only [exitCode]
  by_cases hnil : r.failedFiles = []
  · rw [if_pos hnil, if_pos (hempty.1 hnil)]
  · rw [if_neg hnil, if_neg (fun he => hnil (hempty.2 he)), if_neg hsettings,
      if_neg hfatal]

namespace Builder

variable {b : Builder} {files : List Text} {file : Text}
  {behaviour : Text → Option Indexer.Behaviour} {g : Graph}

theorem reason_of_mem_skipped {s : Skipped}
    (h : s ∈ (b.buildGiven behaviour files).report.skipped) :
    s.reason = Report.excluded ∨ s.reason = Report.notFound := by
  rw [skipped_buildGiven] at h
  rcases List.mem_append.1 h with h | h
  · obtain ⟨id, -, rfl⟩ := List.mem_map.1 h
    exact .inl rfl
  · obtain ⟨id, -, rfl⟩ := List.mem_map.1 h
    exact .inr rfl

theorem mem_skipped_excluded :
    ⟨file, Report.excluded⟩ ∈ (b.buildGiven behaviour files).report.skipped ↔
      file ∈ b.ids files ∧ b.fate file = .excluded := by
  have hne : Report.notFound ≠ Report.excluded := by decide
  simp [skipped_buildGiven, hne, fate_eq_excluded_iff]

theorem mem_skipped_notFound :
    ⟨file, Report.notFound⟩ ∈ (b.buildGiven behaviour files).report.skipped ↔
      file ∈ b.ids files ∧ b.fate file = .missing := by
  have hne : Report.excluded ≠ Report.notFound := by decide
  simp [skipped_buildGiven, hne]

theorem mem_failedFiles :
    .text file ∈ (b.buildGiven behaviour files).report.failedFiles ↔
      file ∈ b.ids files ∧ b.fate file = .failed := by
  simp [failedFiles_buildGiven]

theorem mem_processed :
    file ∈ (b.buildGiven behaviour files).report.processed ↔
      file ∈ b.ids files ∧ b.fate file = .processed := by
  simp [processed_buildGiven]

theorem exitCode_buildGiven :
    (b.buildGiven behaviour files).report.exitCode =
      if (b.ids files).filter (b.fate · = .failed) = [] then .success else
        .partialSuccess := by
  rw [Report.exitCode_of_extractions fun _ => kind_of_mem_failures,
    failedFiles_buildGiven]
  simp only [List.map_eq_nil_iff]

/-! ## Builds that return -/

theorem fate_ne_unreadable (hg : (b.buildGiven behaviour files).graph = .ok g)
    (hfile : file ∈ b.ids files) : b.fate file ≠ .unreadable := by
  intro hf
  have hkept : b.isExcluded file = false := by
    rw [← Bool.not_eq_true, ← fate_eq_excluded_iff, hf]
    decide
  have hsel : file ∈ b.selected files := List.mem_filter.2 ⟨hfile, by simp [hkept]⟩
  have hnone : ((b.selected files).map fun file =>
    (file, b.examinedGiven (behaviour file) file)).findSome?
      (fun e => e.2.unreadable? e.1) = none := by
    simp only [buildGiven, assemble] at hg
    split at hg
    · cases hg
    · assumption
  rw [List.findSome?_eq_none_iff] at hnone
  have hread := hnone _ (List.mem_map_of_mem hsel)
  rcases examinedGiven_cases hkept (behaviour file) with
    ⟨hf', -⟩ | ⟨-, cause, he⟩ | ⟨hf', -⟩ | ⟨hf', -⟩
  · rw [hf] at hf'
    cases hf'
  · rw [he] at hread
    cases hread
  · rw [hf] at hf'
    cases hf'
  · rw [hf] at hf'
    cases hf'

theorem files_buildGiven (h : b.Runs files (b.buildGiven behaviour files))
    (hg : (b.buildGiven behaviour files).graph = .ok g) :
    g.nodes.map (·.file) = (b.ids files).filter (b.fate · = .processed) := by
  have hne : Fate.processed ≠ .excluded := nofun
  rw [h.nodes_eq hg, map_file_facts (h.outcomes_report hg).1, ← filter_selected files hne]
  have houtcomes := (outcomes_of_assemble_eq_ok hg).1
  rw [buildGiven, houtcomes, paths_eq, List.filter_map, List.map_map]
  · refine (List.map_id _).trans (List.filter_congr fun file hmem => ?_)
    have hkept : b.isExcluded file = false := by simpa using (List.mem_filter.1 hmem).2
    rcases examinedGiven_cases hkept (behaviour file) with
      ⟨hf, he⟩ | ⟨hf, _, he⟩ | ⟨hf, _, he⟩ | ⟨hf, _, he⟩ <;>
      simp [hf, he, Examined.outcome?]
  · intro e he
    obtain ⟨file, hmem, rfl⟩ := List.mem_map.1 he
    exact reports_examinedGiven _ (isId_of_mem_selected hmem)

/-- Ids that can all be read are sorted into four lists, and none is lost. -/
theorem perm_fates {ids : List Text} (h : ∀ id ∈ ids, b.fate id ≠ .unreadable) :
    (ids.filter b.isExcluded ++ ids.filter (b.fate · = .missing) ++
      ids.filter (b.fate · = .failed) ++
        ids.filter (b.fate · = .processed)).Perm ids := by
  induction ids with
  | nil => exact .nil
  | cons id ids ih =>
      have ih := ih fun id' hmem => h id' (List.mem_cons_of_mem _ hmem)
      have hexcluded : b.isExcluded id = decide (b.fate id = .excluded) :=
        Bool.eq_iff_iff.2 (by rw [decide_eq_true_eq, fate_eq_excluded_iff])
      simp only [List.filter_cons, hexcluded]
      cases hf : b.fate id with
      | excluded => exact ih.cons id
      | missing =>
          simp only [List.append_assoc] at ih ⊢
          exact List.perm_middle.trans (ih.cons id)
      | unreadable => exact absurd hf (h id List.mem_cons_self)
      | failed =>
          rw [List.append_assoc] at ih ⊢
          exact List.perm_middle.trans (ih.cons id)
      | processed => exact List.perm_middle.trans (ih.cons id)

theorem perm_report (hg : (b.buildGiven behaviour files).graph = .ok g) :
    ((b.buildGiven behaviour files).report.skipped.map (fun s => Value.text s.path) ++
      (b.buildGiven behaviour files).report.failedFiles ++
      (b.buildGiven behaviour files).report.processed.map Value.text).Perm
        ((b.ids files).map Value.text) := by
  have hread : ∀ id ∈ b.ids files, b.fate id ≠ .unreadable :=
    fun _ => fate_ne_unreadable hg
  have hperm := (perm_fates hread).map Value.text
  simp only [List.map_append] at hperm
  rw [skipped_buildGiven, failedFiles_buildGiven, processed_buildGiven, List.map_append,
    List.map_map, List.map_map]
  exact hperm

end Builder

theorem readText_eq_error_iff {w : Workspace} {path : Text} {cause : FileError} :
    w.readText path = .error cause ↔ w.read path = .error cause := by
  rw [Workspace.readText]
  cases w.read path with
  | error found => simp [Except.map]
  | ok bytes => exact iff_of_false nofun nofun

variable {w : Workspace} {root : Text} {settings : AnalyzerSettings} {files : List Text}
  {r : BuildResult} {g : Graph}

/-- In a build that returns, each distinct id of the list is told of once: as excluded, as
not found, as failed, or as processed. Which it is can be read off the file alone. The
graph has the processed ids, in the order in which they first come up, and only a failed
extraction costs the build its success. -/
theorem fates_of_runs (h : (Builder.forRoot w root settings).Runs files r)
    (hg : r.graph = .ok g) :
    (r.report.skipped.map (fun s => Value.text s.path) ++ r.report.failedFiles ++
      r.report.processed.map Value.text).Perm
        ((Text.distinct (files.map (w.canonical root))).map Value.text) ∧
    (∀ s ∈ r.report.skipped, s.reason = Report.excluded ∨ s.reason = Report.notFound) ∧
    (∀ id ∈ Text.distinct (files.map (w.canonical root)),
      (⟨id, Report.excluded⟩ ∈ r.report.skipped ↔
        Exclusion.excludes settings.excludePatterns id = true) ∧
      (⟨id, Report.notFound⟩ ∈ r.report.skipped ↔
        Exclusion.excludes settings.excludePatterns id = false ∧
          w.read id = .error .missing) ∧
      (Value.text id ∈ r.report.failedFiles ↔
        Exclusion.excludes settings.excludePatterns id = false ∧
          (Builder.forRoot w root settings).ExtractionFails id) ∧
      (id ∈ r.report.processed ↔
        Exclusion.excludes settings.excludePatterns id = false ∧
          w.read id ≠ .error .missing ∧
          ¬ (Builder.forRoot w root settings).ExtractionFails id)) ∧
    g.nodes.map (·.file) =
      (Text.distinct (files.map (w.canonical root))).filter (· ∈ r.report.processed) ∧
    (r.report.exitCode = .success ↔ ∀ id ∈ Text.distinct (files.map (w.canonical root)),
      Exclusion.excludes settings.excludePatterns id = false →
        ¬ (Builder.forRoot w root settings).ExtractionFails id) ∧
    (r.report.exitCode ≠ .success → r.report.exitCode = .partialSuccess) := by
  obtain ⟨behaviour, hgiven⟩ := h.exists_given
  subst hgiven
  rw [← Builder.ids_forRoot w root settings files]
  generalize hb : Builder.forRoot w root settings = b at *
  have hexcluded (id : Text) : b.fate id = .excluded ↔
      Exclusion.excludes settings.excludePatterns id = true := by
    rw [Builder.fate_eq_excluded_iff, ← hb]
    rfl
  have hmissing (id : Text) : b.fate id = .missing ↔
      Exclusion.excludes settings.excludePatterns id = false ∧
        w.read id = .error .missing := by
    rw [Builder.fate_eq_missing_iff, readText_eq_error_iff, ← hb]
    rfl
  have hfailed (id : Text) : b.fate id = .failed ↔
      Exclusion.excludes settings.excludePatterns id = false ∧ b.ExtractionFails id := by
    rw [Builder.fate_eq_failed_iff, ← hb]
    rfl
  refine ⟨Builder.perm_report hg, fun _ => Builder.reason_of_mem_skipped,
    fun id hid => ?_, ?_, ?_, ?_⟩
  · rw [Builder.mem_skipped_excluded, Builder.mem_skipped_notFound,
      Builder.mem_failedFiles, Builder.mem_processed, and_iff_right hid,
      and_iff_right hid, and_iff_right hid, and_iff_right hid]
    refine ⟨hexcluded id, hmissing id, hfailed id, ?_⟩
    -- The build returns, so no file is unreadable, and what is none of the others is
    -- processed.
    have hrest : b.fate id = .processed ↔
        b.fate id ≠ .excluded ∧ b.fate id ≠ .missing ∧ b.fate id ≠ .failed := by
      have hread := Builder.fate_ne_unreadable hg hid
      cases hf : b.fate id with
      | unreadable => exact absurd hf hread
      | excluded => simp
      | missing => simp
      | failed => simp
      | processed => simp
    rw [hrest, Ne, hexcluded, Ne, hmissing, Ne, hfailed]
    cases Exclusion.excludes settings.excludePatterns id <;> simp
  · rw [Builder.files_buildGiven h hg]
    refine List.filter_congr fun id hid => ?_
    rw [decide_eq_decide, Builder.mem_processed, and_iff_right hid]
  · have hnone : (b.ids files).filter (b.fate · = .failed) = [] ↔ ∀ id ∈ b.ids files,
        Exclusion.excludes settings.excludePatterns id = false →
          ¬ b.ExtractionFails id := by
      simp only [List.filter_eq_nil_iff, decide_eq_true_eq, hfailed, not_and]
    rw [Builder.exitCode_buildGiven, ← hnone]
    split
    · next hnil => exact iff_of_true rfl hnil
    · next hsome => exact iff_of_false nofun hsome
  · rw [Builder.exitCode_buildGiven]
    split
    · exact fun hne => absurd rfl hne
    · exact fun _ => rfl

/-- A project with a file of every fate that a build outlives. -/
def mixedFiles : Workspace where
  cwd := "/p".toList
  tree := .directory [("p".toList, .directory
    [("a.py".toList, .file []), ("m.go".toList, .file "import \"x\"".toUTF8.toList),
      ("go.mod".toList, .directory []),
      ("dist".toList, .directory [("b.py".toList, .file [])])])]

theorem fates_of_mixedFiles :
    ∃ r g, (Builder.forRoot mixedFiles ['.'] {}).Runs
        ["m.go".toList, "dist/b.py".toList, "x/../a.py".toList, "gone.py".toList,
          "./a.py".toList] r ∧
      r.graph = .ok g ∧ g.nodes.map (·.file) = ["/p/a.py".toList] ∧
      ⟨"/p/gone.py".toList, Report.notFound⟩ ∈ r.report.skipped ∧
      .text "/p/m.go".toList ∈ r.report.failedFiles ∧ r.report.exitCode =
        .partialSuccess := by
  obtain ⟨g, hg, hfiles⟩ : ∃ g,
    ((Builder.forRoot mixedFiles ['.'] {}).build ["m.go".toList,
      "dist/b.py".toList, "x/../a.py".toList, "gone.py".toList, "./a.py".toList]).graph =
        .ok g ∧
      g.nodes.map (·.file) = ["/p/a.py".toList] := by
    refine ok_of_map_eq_ok (g := fun g : Graph => g.nodes.map (·.file)) ?_
    decide +kernel
  have hids : Text.distinct (["m.go".toList, "dist/b.py".toList, "x/../a.py".toList,
      "gone.py".toList, "./a.py".toList].map (mixedFiles.canonical ['.'])) =
      ["/p/m.go".toList, "/p/dist/b.py".toList, "/p/a.py".toList,
        "/p/gone.py".toList] := by
    decide
  have hfails :
      (Builder.forRoot mixedFiles ['.'] {}).ExtractionFails "/p/m.go".toList := by
    refine ⟨"import \"x\"".toList,
      .moduleFile ⟨"/p/go.mod".toList, .isDirectory⟩, ?_, ?_⟩ <;>
      decide +kernel
  obtain ⟨-, -, hsorted, -, hcode, hpartial⟩ := fates_of_runs .alone hg
  rw [hids] at hsorted hcode
  refine ⟨_, g, .alone, hg, hfiles, ?_, ?_, hpartial fun hsuccess => ?_⟩
  · exact (hsorted _ (by decide)).2.1.2 ⟨by decide +kernel, by decide +kernel⟩
  · exact (hsorted _ (by decide)).2.2.1.2 ⟨by decide +kernel, hfails⟩
  · exact hcode.1 hsuccess "/p/m.go".toList (by decide) (by decide +kernel) hfails

end ImpactGraph
