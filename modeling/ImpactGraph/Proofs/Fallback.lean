import ImpactGraph.Proofs.FailedExtractions
import ImpactGraph.Proofs.RecordedFindings

/-!
# An indexer that does not answer leaves no trace in the graph

Which files a build reads, and which of them have facts, does not depend on an
indexer, because a file that the rules have no answer for has no outcome
either way. So a build with an indexer and one without differ file by file or
not at all, and only in what is filed under the same key. There the difference
is all or nothing: without both answers the facts are those of the rules, and
with both they are what the answers say, except for the calls.

`DelegatesAs` fixes what the indexer does about each file and leaves open how;
that is all the theorems about such builds need.
-/

namespace ImpactGraph

open Indexer ImpactGraph.Path

/-! ## Facts from answers -/

theorem Delegation.factsOf_eq (w : Workspace) (root file : Text) (symbols : List Symbol)
    (deps : List Dependency) :
    factsOf w root file symbols deps =
      { file := file
        language := Language.ofPath? file
        exports :=
  Text.distinct (((symbols.filter (·.isExported)).map (·.name)).filter (· ≠ []))
        imports := deps.map fun d =>
          { symbol := d.target, target := w.canonical root d.target }
        edges := Text.distinct (deps.map fun d => w.canonical root d.target) } := by
  simp only [factsOf]
  rw [FileFacts.foldl_record_eq]
  have hexports : Finding.export? ∘ (fun s : Symbol => Finding.exports s.name) =
      some ∘ Symbol.name :=
    rfl
  have htargets : Finding.target? ∘ (fun s : Symbol => Finding.exports s.name) =
      fun _ => none := rfl
  have hnone : (deps.flatMap fun _ => ([] : List Text)) = [] :=
    List.flatMap_eq_nil_iff.2 fun _ _ => rfl
  simp [List.filterMap_flatMap, List.filterMap_map, List.filterMap_cons,
    ← List.map_eq_flatMap, hexports, htargets, hnone, Text.distinct]

/-! ## One file -/

namespace Builder

variable {b : Builder} {file : Text} {does : Behaviour}

/-- An examination comes to an outcome where there is a text and the rules have an answer
for it. -/
theorem outcome?_examinedGiven (b : Builder) (behaviour : Option Behaviour)
    (file : Text) :
    (b.examinedGiven behaviour file).outcome? =
      (b.workspace.readText file).toOption.bind fun content =>
        (b.outcomeGiven behaviour file content).toOption := by
  unfold examinedGiven examineWith
  cases b.workspace.readText file with
  | error cause => cases cause <;> rfl
  | ok content =>
      show (examinedOf (b.outcomeGiven behaviour file content)).outcome? =
        (b.outcomeGiven behaviour file content).toOption
      cases b.outcomeGiven behaviour file content <;> rfl

/-- What the rules find in a file that can be read. -/
def found? (b : Builder) (file : Text) : Option FileFacts :=
  (b.workspace.readText file).toOption.bind fun content =>
    (b.extractor.extract file content).toOption

theorem outcome?_examinedGiven_some (b : Builder) (does : Behaviour) (file : Text) :
    (b.examinedGiven (some does) file).outcome? =
      (b.found? file).map (Delegation.conclude file
        (Delegation.told b.extractor.workspace b.extractor.root file does)) := by
  rw [outcome?_examinedGiven, found?, Option.map_bind]
  refine congrArg _ (funext fun content => ?_)
  show (Except.map _ (b.extractor.extract file content)).toOption =
    (b.extractor.extract file content).toOption.map _
  cases b.extractor.extract file content <;> rfl

theorem nodeGiven_none (b : Builder) (file : Text) :
    b.nodeGiven none file = b.found? file := by
  rw [nodeGiven, outcome?_examinedGiven, found?, Option.bind_assoc]
  refine congrArg _ (funext fun content => ?_)
  show (Except.toOption (Except.map _ (b.extractor.extract file content))).bind _ = _
  cases b.extractor.extract file content <;> rfl

theorem nodeGiven_of_not_isAnswer (h : does.isAnswer = false) :
    b.nodeGiven (some does) file = b.nodeGiven none file := by
  rw [nodeGiven_none, nodeGiven, outcome?_examinedGiven_some, Option.bind_map]
  cases does with
  | answers symbols deps => exact absurd h Bool.noConfusion
  | _ => exact Option.bind_fun_some (b.found? file)

theorem nodeGiven_answers (symbols : List Symbol) (deps : List Dependency) :
    b.nodeGiven (some (.answers symbols deps)) file =
      (b.nodeGiven none file).map fun found =>
        { Delegation.factsOf b.extractor.workspace b.extractor.root file symbols deps with
          calls := found.calls } := by
  rw [nodeGiven_none, nodeGiven, outcome?_examinedGiven_some, Option.bind_map,
    Option.map_eq_bind]
  rfl

theorem fellBack_of_outcome? {o : Outcome}
    (h : (b.examinedGiven (some does) file).outcome? = some o) :
    o.fellBack = !does.isAnswer := by
  rw [outcome?_examinedGiven_some] at h
  obtain ⟨found, -, rfl⟩ := Option.map_eq_some_iff.1 h
  cases does <;> rfl

/-! ## The whole build -/

/-- The builds in which an indexer is asked and does what is written down for each
file. -/
inductive DelegatesAs (b : Builder) (files : List Text) (does : Text → Behaviour) :
    BuildResult → Prop
  | asking {σ : Type} (service : Service σ) (s : σ)
      (h : b.Meets (some service) (fun file => some (does file)) (b.askedAbout files) s) :
    b.DelegatesAs files does ((b.buildFrom (some service) files).run s).1

variable {files : List Text} {does : Text → Behaviour} {r : BuildResult}
  {behaviour : Text → Option Behaviour}

theorem DelegatesAs.runs (h : b.DelegatesAs files does r) : b.Runs files r := by
  cases h with
  | asking service s h => exact .asking service s

theorem DelegatesAs.eq_given (h : b.DelegatesAs files does r) :
    r = b.buildGiven (fun file => some (does file)) files := by
  cases h with
  | asking service s h => exact run_buildFrom h

/-- Whatever is written down can happen. -/
theorem exists_delegatesAs (b : Builder) (files : List Text) (does : Text → Behaviour) :
    ∃ r, b.DelegatesAs files does r :=
  ⟨_, .asking scripted _ (meets_scripted b does _)⟩

/-- Whatever happens can be written down. -/
theorem delegatesAs_of_run {σ : Type} (b : Builder) (files : List Text)
    (service : Service σ) (s : σ) :
    ∃ does, b.DelegatesAs files does ((b.buildFrom (some service) files).run s).1 := by
  obtain ⟨behaviour, h⟩ := exists_meets b (some service) (nodup_askedAbout b files) s
  refine ⟨fun file => (behaviour file).getD .unavailable,
    .asking service s (h.congr fun file hf => ?_)⟩
  obtain ⟨does, hdoes⟩ := Option.isSome_iff_exists.1 (isSome_of_meets h hf)
  rw [hdoes]
  rfl

theorem unreadable?_examinedGiven (b : Builder) (behaviour : Option Behaviour)
    (file : Text) :
    (b.examinedGiven behaviour file).unreadable? file =
      (b.examinedGiven none file).unreadable? file := by
  unfold examinedGiven examineWith
  cases b.workspace.readText file with
  | error cause => cases cause <;> rfl
  | ok content =>
      have hread (x : Except ExtractionError Outcome) :
          (examinedOf x).unreadable? file = none := by
        cases x <;> rfl
      exact (hread _).trans (hread _).symm

theorem graph_assemble_eq_error_iff {root : Text} {excluded : List Text}
    {examined : List (Text × Examined)} {u : Unreadable} :
    (assemble root excluded examined).graph = .error u ↔
      examined.findSome? (fun e => e.2.unreadable? e.1) = some u := by
  simp only [assemble]
  split
  · next u' hu => simp [hu]
  · next hu => simp [hu]

theorem graph_buildGiven_eq_error_iff {u : Unreadable} :
    (b.buildGiven behaviour files).graph = .error u ↔ (b.build files).graph =
      .error u := by
  rw [build_eq, buildGiven, buildGiven, graph_assemble_eq_error_iff,
    graph_assemble_eq_error_iff, List.findSome?_map, List.findSome?_map]
  have hsame := funext fun file => unreadable?_examinedGiven b (behaviour file) file
  exact Eq.congr_left (congrArg (List.findSome? · (b.selected files)) hsame)

/-- An indexer has no say in which files get into the graph, nor in whether there is
one. -/
theorem keys_buildGiven (h : b.Runs files (b.buildGiven behaviour files)) :
    (b.buildGiven behaviour files).graph.map (·.nodes.map (·.file)) =
      (b.build files).graph.map (·.nodes.map (·.file)) := by
  cases hg : (b.buildGiven behaviour files).graph with
  | error u => rw [graph_buildGiven_eq_error_iff.1 hg]
  | ok g =>
      cases hl : (b.build files).graph with
      | error u => exact absurd (hg.symm.trans (graph_buildGiven_eq_error_iff.2 hl)) nofun
      | ok alone =>
          -- Both graphs have the ids of one fate, and fates do not depend on the indexer.
          have hkeys := files_buildGiven h hg
          rw [build_eq] at hl
          exact congrArg Except.ok (hkeys.trans (files_buildGiven .alone hl).symm)

theorem failures_buildGiven (h : ∀ file ∈ b.selected files, ¬ b.ExtractionFails file) :
    (b.buildGiven behaviour files).report.failures = [] := by
  change Report.failures (List.foldl _ _ _) = []
  rw [foldl_note failures_note, foldl_recordSkipped, List.nil_append,
    List.flatMap_eq_nil_iff]
  intro e he
  obtain ⟨file, hfile, rfl⟩ := List.mem_map.1 he
  have hkept : b.isExcluded file = false := by simpa using (List.mem_filter.1 hfile).2
  rcases examinedGiven_cases hkept (behaviour file) with
    ⟨-, he⟩ | ⟨-, _, he⟩ | ⟨hf, _, -⟩ | ⟨-, _, he⟩
  · rw [he]; rfl
  · rw [he]; rfl
  · exact absurd (fate_eq_failed_iff.1 hf).2 (h file hfile)
  · rw [he]; rfl

theorem fellBack_buildGiven {g : Graph}
    (hg : (b.buildGiven (fun file => some (does file)) files).graph = .ok g) {o : Outcome}
    (ho : o ∈ (b.buildGiven (fun file => some (does file)) files).outcomes) :
    o.fellBack = !(does o.path).isAnswer := by
  rw [buildGiven, (outcomes_of_assemble_eq_ok hg).1] at ho
  obtain ⟨e, he, hdo⟩ := List.mem_filterMap.1 ho
  obtain ⟨file, hfile, rfl⟩ := List.mem_map.1 he
  rw [(reports_examinedGiven _ (isId_of_mem_selected hfile) o hdo).path]
  exact fellBack_of_outcome? hdo

theorem outcomes_buildGiven {g : Graph}
    (h : b.Runs files (b.buildGiven (fun file => some (does file)) files))
    (hg : (b.buildGiven (fun file => some (does file)) files).graph = .ok g) :
    (b.buildGiven (fun file => some (does file)) files).outcomes.map (fun o =>
      (o.path, o.fellBack)) =
      g.nodes.map fun node => (node.file, !(does node.file).isAnswer) := by
  have hpaths := map_file_facts (h.outcomes_report hg).1
  rw [← h.nodes_eq hg] at hpaths
  calc _ = (b.buildGiven (fun file => some (does file)) files).outcomes.map
          (fun o => (o.path, !(does o.path).isAnswer)) :=
        List.map_congr_left fun o ho => congrArg _ (fellBack_buildGiven hg ho)
    _ = ((b.buildGiven (fun file => some (does file)) files).outcomes.map (·.path)).map
          (fun file => (file, !(does file).isAnswer)) := by rw [List.map_map]; rfl
    _ = _ := by rw [← hpaths, List.map_map]; rfl

/-- Only texts of two languages can be left without an answer. -/
theorem language_of_extractionFails (h : b.ExtractionFails file) :
    Language.ofPath? file ∈ [some .go, some .rust] := by
  obtain ⟨content, e, -, hfails⟩ := h
  rcases Extractor.extract_eq_error_iff.1 hfails with ⟨hgo, -⟩ | ⟨hrust, -⟩
  · exact hgo ▸ List.mem_cons_self
  · exact hrust ▸ List.mem_cons_of_mem _ List.mem_cons_self

theorem canonical_extractor (b : Builder) (path : Text) :
    b.extractor.workspace.canonical b.extractor.root path =
      b.workspace.canonical b.root path :=
  canonical_canonical_dot _ _ path

/-- Where the rules have an answer for every file, a build with an indexer has the keys of
the build without one and reports no failure, whatever the indexer does about each file.
What it files under a key is what the rules find, unless both questions were answered;
then it is what the answers say, with the calls that the rules find. -/
theorem delegated_file_by_file (does : Text → Behaviour)
    (hrules : ∀ file ∈ b.selected files, ¬ b.ExtractionFails file) :
    (∃ r, b.DelegatesAs files does r) ∧ ∀ r, b.DelegatesAs files does r →
      r.graph.map (·.nodes.map (·.file)) =
        (b.build files).graph.map (·.nodes.map (·.file)) ∧
      r.report.failures = [] ∧
      ∀ g alone, r.graph = .ok g → (b.build files).graph = .ok alone →
        (∀ file, (does file).isAnswer = false → g.node? file = alone.node? file) ∧
        (∀ file symbols deps, does file = .answers symbols deps →
          g.node? file = (alone.node? file).map fun found =>
            { file := file
              language := Language.ofPath? file
              exports := Text.distinct
                (((symbols.filter (·.isExported)).map (·.name)).filter (· ≠ []))
              imports := deps.map fun d =>
                { symbol := d.target, target := b.workspace.canonical b.root d.target }
              edges :=
  Text.distinct (deps.map fun d => b.workspace.canonical b.root d.target)
              calls := found.calls }) ∧
        r.outcomes.map (fun o => (o.path, o.fellBack)) =
          g.nodes.map fun node => (node.file, !(does node.file).isAnswer) := by
  refine ⟨exists_delegatesAs b files does, fun r h => ?_⟩
  have hruns := h.runs
  obtain rfl := h.eq_given
  refine ⟨keys_buildGiven hruns, failures_buildGiven hrules, fun g alone hg hl =>
    ⟨fun file hno => ?_, fun file symbols deps hdoes => ?_, ?_⟩⟩
  · rw [node?_buildGiven hruns hg, node?_build hl, nodeGiven_of_not_isAnswer hno]
  · rw [node?_buildGiven hruns hg, node?_build hl, hdoes, nodeGiven_answers,
      Delegation.factsOf_eq]
    simp only [canonical_extractor]
    split <;> rfl
  · exact outcomes_buildGiven hruns hg

/-- A project of five files that import the first of them. -/
def fiveFiles : Workspace where
  cwd := "/p".toList
  tree :=
    .directory [("p".toList, .directory (["a.py", "b.py", "c.py", "d.py", "e.py"].map
    fun name => (name.toList, .file "import a".toUTF8.toList)))]

/-- An indexer that does something else about each of five files. -/
def fiveBehaviours (file : Text) : Behaviour :=
  if file = "/p/a.py".toList then .unavailable
  else if file = "/p/b.py".toList then .probeFails "refused".toList
  else if file = "/p/c.py".toList then .symbolsFail "crashed".toList
  else if file = "/p/d.py".toList then .dependenciesFail "crashed".toList
  else .answers
    [⟨"f".toList, [], [], 1, 1, true⟩, ⟨"g".toList, [], [], 2, 2, false⟩,
      ⟨[], [], [], 3, 3, true⟩, ⟨"f".toList, [], [], 4, 4, true⟩]
    [⟨[], "b.py".toList, []⟩, ⟨[], "x/../b.py".toList, []⟩]

theorem delegated_of_fiveFiles :
    ∃ r g alone, (forRoot fiveFiles ['.'] {}).DelegatesAs
        (["e.py", "d.py", "c.py", "b.py", "a.py"].map String.toList) fiveBehaviours r ∧
      r.graph = .ok g ∧
      ((forRoot fiveFiles ['.'] {}).build
        (["e.py", "d.py", "c.py", "b.py", "a.py"].map String.toList)).graph = .ok alone ∧
      r.report.failures = [] ∧ r.outcomes.map (·.fellBack) =
        [false, true, true, true, true] ∧
      g.node? "/p/d.py".toList = alone.node? "/p/d.py".toList ∧
      ∃ found answered, alone.node? "/p/e.py".toList = some found ∧
        found.edges = ["/p/a.py".toList] ∧ g.node? "/p/e.py".toList = some answered ∧
        answered.exports = ["f".toList] ∧ answered.edges = ["/p/b.py".toList] := by
  have hselected : (forRoot fiveFiles ['.'] {}).selected
      (["e.py", "d.py", "c.py", "b.py", "a.py"].map String.toList) =
        ["/p/e.py", "/p/d.py", "/p/c.py", "/p/b.py", "/p/a.py"].map String.toList := by
    decide +kernel
  have hrules : ∀ file ∈ (forRoot fiveFiles ['.'] {}).selected
      (["e.py", "d.py", "c.py", "b.py", "a.py"].map String.toList),
      ¬ (forRoot fiveFiles ['.'] {}).ExtractionFails file := by
    have hlanguage : ∀ file ∈ ["/p/e.py", "/p/d.py", "/p/c.py", "/p/b.py", "/p/a.py"].map
        String.toList, Language.ofPath? file ∉ [some .go, some .rust] := by
      decide
    intro file hfile hfails
    rw [hselected] at hfile
    exact hlanguage file hfile (language_of_extractionFails hfails)
  obtain ⟨alone, hl, hfound⟩ : ∃ alone, ((forRoot fiveFiles ['.'] {}).build
      (["e.py", "d.py", "c.py", "b.py", "a.py"].map String.toList)).graph = .ok alone ∧
      (alone.nodes.map (·.file), (alone.node? "/p/e.py".toList).map (·.edges)) =
        (["/p/e.py", "/p/d.py", "/p/c.py", "/p/b.py", "/p/a.py"].map String.toList,
          some ["/p/a.py".toList]) := by
    refine ok_of_map_eq_ok (g := fun g : Graph =>
      (g.nodes.map (·.file), (g.node? "/p/e.py".toList).map (·.edges))) ?_
    decide +kernel
  obtain ⟨hfiles, hedges⟩ := Prod.mk.inj hfound
  obtain ⟨found, hnode, hedges⟩ := Option.map_eq_some_iff.1 hedges
  obtain ⟨⟨r, hr⟩, hall⟩ := delegated_file_by_file fiveBehaviours hrules
  obtain ⟨hkeys, hfailures, hrest⟩ := hall r hr
  -- That this build returns follows from the build without an indexer.
  rw [hl] at hkeys
  obtain ⟨g, hg, hsame⟩ := ok_of_map_eq_ok hkeys
  obtain ⟨hunanswered, hanswered, houtcomes⟩ := hrest g alone hg hl
  have hfell := congrArg (List.map Prod.snd) houtcomes
  rw [List.map_map, List.map_map] at hfell
  refine ⟨r, g, alone, hr, hg, hl, hfailures, hfell.trans ?_, hunanswered _ rfl,
    found, _, hnode, hedges,
    (hanswered "/p/e.py".toList _ _ rfl).trans (congrArg _ hnode), ?_, ?_⟩
  · have hbehaviours := congrArg (List.map fun file => !(fiveBehaviours file).isAnswer)
      (hsame.trans hfiles)
    rw [List.map_map] at hbehaviours
    exact hbehaviours
  · dsimp only
    decide
  · dsimp only
    decide

end Builder

end ImpactGraph
