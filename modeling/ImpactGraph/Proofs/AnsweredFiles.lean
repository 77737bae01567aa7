import ImpactGraph.Proofs.Fallback

/-!
# Files that an indexer answers for

What an indexer tells about a file takes the place of what the rules find there,
calls aside. The rules still run, for the calls, and where they fail nothing is
left to put the answers into: the file is lost, though there is a full answer
for it. That happens to the files that fail without an indexer and to no others.
-/

namespace ImpactGraph

open Indexer

namespace Builder

variable {w : Workspace} {root : Text} {settings : AnalyzerSettings} {b : Builder}
  {files : List Text} {does : Text → Behaviour} {r : BuildResult} {g : Graph}
  {file content : Text} {found : FileFacts} {symbols : List Symbol}
  {deps : List Dependency}

theorem fate_eq_processed_of_extract (hkept : b.isExcluded file = false)
    (hread : b.workspace.readText file = .ok content)
    (hfound : b.extractor.extract file content = .ok found) :
    b.fate file = .processed := by
  rw [fate, if_neg (by simp [hkept]), hread]
  simp only [hfound]

theorem found?_of_readText (hread : b.workspace.readText file = .ok content) :
    b.found? file = (b.extractor.extract file content).toOption := by
  rw [found?, hread]
  rfl

/-- A file for which both questions were answered has the node that the answers give, with
the calls that the rules find, as long as the rules do not fail; where they fail it has
none, and is among the failed files. -/
theorem answered_unless_stopped (hr : (forRoot w root settings).DelegatesAs files does r)
    (hg : r.graph = .ok g) (hfile : file ∈ (forRoot w root settings).selected files)
    (hread : w.readText file = .ok content) (hdoes : does file = .answers symbols deps) :
    (¬ IsStopped w root file → ∃ found,
      (forRoot w root settings).extractor.extract file content = .ok found ∧
      g.node? file = some
        { file := file
          language := Language.ofPath? file
          exports :=
  Text.distinct (((symbols.filter (·.isExported)).map (·.name)).filter (· ≠ []))
          imports := deps.map fun d =>
            { symbol := d.target, target := w.canonical root d.target }
          edges := Text.distinct (deps.map fun d => w.canonical root d.target)
          calls := found.calls } ∧
      file ∈ r.report.processed) ∧
    (IsStopped w root file → g.node? file = none ∧
      .text file ∈ r.report.failedFiles) := by
  have hruns := hr.runs
  obtain rfl := hr.eq_given
  have hread : (forRoot w root settings).workspace.readText file = .ok content := hread
  have hid : file ∈ (forRoot w root settings).ids files := (List.mem_filter.1 hfile).1
  have hkept : (forRoot w root settings).isExcluded file = false := by
    simpa using (List.mem_filter.1 hfile).2
  have hcanonical (path : Text) : (forRoot w root settings).extractor.workspace.canonical
      (forRoot w root settings).extractor.root path = w.canonical root path :=
    (canonical_extractor _ path).trans (Path.canonical_canonical_dot w.cwd root path)
  -- The answers are written over what the rules find, so there has to be something that
  -- they find.
  rw [node?_buildGiven hruns hg, if_pos hfile, hdoes, nodeGiven_answers, nodeGiven_none,
    found?_of_readText hread]
  refine ⟨fun hno => ?_, fun hstopped => ⟨?_, ?_⟩⟩
  · cases hfound : (forRoot w root settings).extractor.extract file content with
    | error e => exact absurd (extractionFails_iff.1 ⟨content, e, hread, hfound⟩) hno
    | ok found =>
        refine ⟨found, rfl, ?_,
          mem_processed.2 ⟨hid, fate_eq_processed_of_extract hkept hread hfound⟩⟩
        rw [Delegation.factsOf_eq]
        simp only [hcanonical]
        rfl
  · have hnone : (forRoot w root settings).ExtractionFails file :=
      extractionFails_iff.2 hstopped
    obtain ⟨content', e, hread', hfails⟩ := hnone
    obtain rfl := Except.ok.inj (hread.symm.trans hread')
    rw [hfails]
    rfl
  · exact mem_failedFiles.2 ⟨hid,
      fate_eq_failed_iff.2 ⟨hkept, extractionFails_iff.2 hstopped⟩⟩

/-- A project in Go with a module file that cannot be opened. -/
def closedModule : Workspace where
  cwd := "/p".toList
  tree := .directory [("p".toList, .directory
    [("go.mod".toList, .closed), ("a.go".toList, .file "import \"./b\"".toUTF8.toList),
      ("m.go".toList, .file "import \"fmt\"".toUTF8.toList)])]

/-- An indexer that answers for every file. -/
def knowing (_ : Text) : Behaviour :=
  .answers [⟨"F".toList, [], [], 1, 1, true⟩] [⟨[], "b.go".toList, []⟩]

theorem answered_of_closedModule :
    ∃ r g,
      (forRoot closedModule ['.'] {}).DelegatesAs ["m.go".toList,
        "a.go".toList] knowing r ∧
      r.graph = .ok g ∧ (g.node? "/p/a.go".toList).map (·.exports) = some ["F".toList] ∧
      "/p/a.go".toList ∈ r.report.processed ∧ g.node? "/p/m.go".toList = none ∧
      .text "/p/m.go".toList ∈ r.report.failedFiles := by
  obtain ⟨r, hr⟩ := exists_delegatesAs (forRoot closedModule ['.'] {}) ["m.go".toList,
    "a.go".toList] knowing
  obtain ⟨g, hg, -⟩ : ∃ g, r.graph = .ok g ∧ g.root = "/p".toList := by
    rw [hr.eq_given]
    refine ok_of_map_eq_ok (g := fun g : Graph => g.root) ?_
    decide +kernel
  have hselected :
      (forRoot closedModule ['.'] {}).selected ["m.go".toList, "a.go".toList] =
        ["/p/m.go".toList, "/p/a.go".toList] := by
    decide +kernel
  have hgroup : closedModule.readText "/p/m.go".toList = .ok "import \"fmt\"".toList := by
    decide +kernel
  have hown : closedModule.readText "/p/a.go".toList = .ok "import \"./b\"".toList := by
    decide +kernel
  have hstopped : IsStopped closedModule ['.'] "/p/m.go".toList := by
    refine ⟨_, _, hgroup,
      .inl ⟨by decide +kernel, by decide +kernel, ⟨"/p/go.mod".toList, .denied⟩,
      ⟨?_, by decide, ?_⟩, rfl⟩⟩
    · decide +kernel
    · decide +kernel
  have hfree : ¬ IsStopped closedModule ['.'] "/p/a.go".toList := by
    rintro ⟨content, e, hread, ⟨-, hpackage, -⟩ | ⟨hlanguage, -⟩⟩
    · obtain rfl := Except.ok.inj (hown.symm.trans hread)
      exact absurd hpackage (by decide +kernel)
    · exact absurd hlanguage (by decide +kernel)
  obtain ⟨hkept, -⟩ := answered_unless_stopped hr hg (by rw [hselected]; decide) hown rfl
  obtain ⟨-, hlost⟩ :=
    answered_unless_stopped hr hg (by rw [hselected]; decide) hgroup rfl
  obtain ⟨found, -, hnode, hprocessed⟩ := hkept hfree
  obtain ⟨hnone, hfailed⟩ := hlost hstopped
  refine ⟨r, g, hr, hg, ?_, hprocessed, hnone, hfailed⟩
  rw [hnode, Option.map_some]
  dsimp only
  decide

/-- A file is lost that can be read and that the indexer answered for. -/
theorem answered_file_lost :
    ∃ r g, (forRoot closedModule ['.'] {}).DelegatesAs ["m.go".toList] knowing r ∧
      r.graph = .ok g ∧
      "/p/m.go".toList ∈ (forRoot closedModule ['.'] {}).selected ["m.go".toList] ∧
      closedModule.readText "/p/m.go".toList = .ok "import \"fmt\"".toList ∧
      (knowing "/p/m.go".toList).isAnswer = true ∧ g.node? "/p/m.go".toList = none := by
  obtain ⟨r, hr⟩ :=
    exists_delegatesAs (forRoot closedModule ['.'] {}) ["m.go".toList] knowing
  obtain ⟨g, hg, hnode⟩ : ∃ g, r.graph = .ok g ∧ g.node? "/p/m.go".toList = none := by
    rw [hr.eq_given]
    refine ok_of_map_eq_ok (g := fun g : Graph => g.node? "/p/m.go".toList) ?_
    decide +kernel
  exact ⟨r, g, hr, hg, by decide +kernel, by decide +kernel, rfl, hnode⟩

end Builder

end ImpactGraph
