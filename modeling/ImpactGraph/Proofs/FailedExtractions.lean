import ImpactGraph.Proofs.ExpansionLimits
import ImpactGraph.Proofs.Fates
import ImpactGraph.Proofs.UseDeclarations

/-!
# Extractions that fail

What does not fit a pattern is passed over, so most texts have an answer however
malformed they are. Two things stop the rules. One is the module file of a
project in Go, when it is there and cannot be opened, and it is only asked for
when a text imports a package by its path. Every import that asks is stopped in
the same way, so which of them comes first makes no difference to the error. The
other is a text alone: a use tree of Rust with more groups inside one another
than the interpreter's stack holds calls.
-/

namespace ImpactGraph

open ImpactGraph.Path

/-- The module file below a root is there and cannot be opened. -/
def ModuleFileFails (w : Workspace) (root : Text) (u : Unreadable) : Prop :=
  u.path = join (w.canonical root ['.']) "go.mod".toList ∧ u.cause ≠ .missing ∧
    w.read u.path = .error u.cause

/-- A text has an import whose path does not begin with a dot. -/
def NamesPackage (content : Text) : Prop :=
  ∃ spec ∈ Rules.Go.importSpecs content, spec.2.1.head? ≠ some '.'

instance (content : Text) : Decidable (NamesPackage content) :=
  inferInstanceAs (Decidable (∃ spec ∈ Rules.Go.importSpecs content, _))

section Failing

variable {w : Workspace} {root file content path : Text} {u : Unreadable}

theorem ModuleFileFails.eq {u' : Unreadable} (h : ModuleFileFails w root u)
    (h' : ModuleFileFails w root u') : u = u' := by
  obtain ⟨path, cause⟩ := u
  obtain ⟨path', cause'⟩ := u'
  obtain ⟨rfl, -, hread⟩ := h
  obtain ⟨rfl, -, hread'⟩ := h'
  obtain rfl : cause = cause' := Except.error.inj (hread.symm.trans hread')
  rfl

/-- A root that is spelled out has the same module file. -/
theorem moduleFileFails_canonical :
    ModuleFileFails w (w.canonical root ['.']) u ↔ ModuleFileFails w root u := by
  have hroot : w.canonical (w.canonical root ['.']) ['.'] = w.canonical root ['.'] :=
    canonical_canonical_dot w.cwd root ['.']
  rw [ModuleFileFails, hroot, ModuleFileFails]

namespace Resolve

theorem goModule_eq_error_iff :
    goModule w (w.canonical root ['.']) = .error u ↔ ModuleFileFails w root u := by
  obtain ⟨path, cause⟩ := u
  show _ ↔ path = _ ∧ cause ≠ .missing ∧ w.read path = .error cause
  rw [← readText_eq_error_iff]
  unfold goModule
  dsimp only
  split
  · next content hread =>
      refine iff_of_false (by simp) ?_
      rintro ⟨rfl, -, hfails⟩
      exact absurd (hread.symm.trans hfails) (by simp)
  · next hread =>
      refine iff_of_false (by simp) ?_
      rintro ⟨rfl, hcause, hfails⟩
      exact hcause (Except.error.inj (hread.symm.trans hfails)).symm
  · next found hcause hread =>
      constructor
      · intro h
        obtain ⟨rfl, rfl⟩ := Unreadable.mk.inj (Except.error.inj h)
        exact ⟨rfl, hcause, hread⟩
      · rintro ⟨rfl, -, hfails⟩
        obtain rfl := Except.error.inj (hread.symm.trans hfails)
        rfl

theorem go_eq_error_iff :
    go w root file path = .error u ↔ path.head? ≠ some '.' ∧
      ModuleFileFails w root u := by
  rw [go]
  split
  · next hdot => exact iff_of_false (by simp) fun h => h.1 hdot
  · next hdot => rw [map_eq_error_iff, goModule_eq_error_iff, and_iff_right hdot]

end Resolve

namespace Rules.Go

theorem importFindings_eq_error_iff {renamed : Option Text} {line : Nat} :
    importFindings w root file renamed path line = .error u ↔
      path.head? ≠ some '.' ∧ ModuleFileFails w root u := by
  rw [importFindings, map_eq_error_iff, Resolve.go_eq_error_iff]

theorem findings_eq_error_iff :
    findings w root file content = .error u ↔ NamesPackage content ∧
      ModuleFileFails w root u := by
  rw [findings, map_eq_error_iff]
  constructor
  · intro h
    obtain ⟨spec, hspec, hfails⟩ := exists_of_mapM_eq_error h
    obtain ⟨hpackage, hmodule⟩ := importFindings_eq_error_iff.1 hfails
    exact ⟨⟨spec, hspec, hpackage⟩, hmodule⟩
  · rintro ⟨⟨spec, hspec, hpackage⟩, hmodule⟩
    -- Which import ends the loop is left open: its error is this one in any case.
    have hfails : importFindings w root file spec.1 spec.2.1 spec.2.2 = .error u :=
      importFindings_eq_error_iff.2 ⟨hpackage, hmodule⟩
    obtain ⟨u', hu'⟩ := exists_mapM_eq_error
      (g := fun spec => importFindings w root file spec.1 spec.2.1 spec.2.2) hspec hfails
    obtain ⟨other, -, hfails⟩ := exists_of_mapM_eq_error hu'
    rw [hu', hmodule.eq (importFindings_eq_error_iff.1 hfails).2]

end Rules.Go

theorem Rules.Rust.findings_eq_error_iff {fault : UseTree.Fault} :
    findings w root file content = .error fault ↔ NestsBeyond w.stack content ∧
      fault = .tooDeep := by
  rw [findings_eq]
  split
  · next h => simp [h, eq_comm]
  · next h => simp [h]

/-- What ends the extraction of a text: a text of Go imports a package and the module file
cannot be opened, or a text of Rust has a use tree that takes more calls than the stack
holds. -/
def EndsExtraction (w : Workspace) (root file content : Text)
    (e : ExtractionError) : Prop :=
  (Language.ofPath? file = some .go ∧ NamesPackage content ∧
    ∃ u, ModuleFileFails w root u ∧ e = .moduleFile u) ∨
  (Language.ofPath? file = some .rust ∧ Rules.Rust.NestsBeyond w.stack content ∧
    e = .useTree .tooDeep)

theorem endsExtraction_canonical {e : ExtractionError} :
    EndsExtraction w (w.canonical root ['.']) file content e ↔
      EndsExtraction w root file content e := by
  simp only [EndsExtraction, moduleFileFails_canonical]

theorem Extractor.extract_eq_error_iff {recordCalls : Bool} {e : ExtractionError} :
    (Extractor.forRoot w root recordCalls).extract file content = .error e ↔
      EndsExtraction w root file content e := by
  rw [Extractor.extract]
  constructor
  · intro h
    cases hlanguage : Language.ofPath? file with
    | none => rw [hlanguage] at h; cases h
    | some language =>
        rw [hlanguage] at h
        have hfound := map_eq_error_iff.1 h
        cases language with
        | go =>
            obtain ⟨u, hfails, rfl⟩ := mapError_eq_error_iff.1 hfound
            obtain ⟨hpackage, hmodule⟩ := Rules.Go.findings_eq_error_iff.1 hfails
            exact .inl ⟨hlanguage, hpackage, u, moduleFileFails_canonical.1 hmodule, rfl⟩
        | rust =>
            obtain ⟨fault, hfails, rfl⟩ := mapError_eq_error_iff.1 hfound
            obtain ⟨hbeyond, rfl⟩ := Rules.Rust.findings_eq_error_iff.1 hfails
            exact .inr ⟨hlanguage, hbeyond, rfl⟩
        | typescript | javascript | python | java => cases hfound
  · rintro (⟨hlanguage, hpackage, u, hmodule, rfl⟩ | ⟨hlanguage, hbeyond, rfl⟩)
    · rw [hlanguage]
      refine map_eq_error_iff.2 (mapError_eq_error_iff.2 ⟨_, ?_, rfl⟩)
      exact Rules.Go.findings_eq_error_iff.2 ⟨hpackage,
        moduleFileFails_canonical.2 hmodule⟩
    · rw [hlanguage]
      refine map_eq_error_iff.2 (mapError_eq_error_iff.2 ⟨_, ?_, rfl⟩)
      exact Rules.Rust.findings_eq_error_iff.2 ⟨hbeyond, rfl⟩

end Failing

/-! ## Failed files of a build -/

section Builds

variable {w : Workspace} {root : Text} {settings : AnalyzerSettings}
  {files : List Text} {file : Text}

/-- The text of a file can be read, and its extraction comes to no end. -/
def IsStopped (w : Workspace) (root file : Text) : Prop :=
  ∃ content e, w.readText file = .ok content ∧ EndsExtraction w root file content e

theorem extractionFails_iff : (Builder.forRoot w root settings).ExtractionFails file ↔
    IsStopped w root file := by
  refine exists_congr fun content => exists_congr fun e => and_congr_right fun _ => ?_
  exact Extractor.extract_eq_error_iff.trans endsExtraction_canonical

/-- Extracting the facts of a text fails for one of two reasons: the file is one of Go,
the text imports a package, and the module file below the root is there and cannot be
opened; or the file is one of Rust, and a use tree in the text takes more calls than the
stack holds. So the files that fail in a build are, in their order, those among the files
it reads that are stopped by one of these. -/
theorem extraction_fails_iff (w : Workspace) (root : Text) :
    (∀ recordCalls file content e,
      (Extractor.forRoot w root recordCalls).extract file content = .error e ↔
        (Language.ofPath? file = some .go ∧ NamesPackage content ∧
          ∃ u, ModuleFileFails w root u ∧ e = .moduleFile u) ∨
        (Language.ofPath? file = some .rust ∧ Rules.Rust.NestsBeyond w.stack content ∧
          e = .useTree .tooDeep)) ∧
    ∀ settings files, ∃ failed : List Text,
      ((Builder.forRoot w root settings).build files).report.failedFiles =
        failed.map .text ∧
      failed.Sublist ((Builder.forRoot w root settings).selected files) ∧
      ∀ file, file ∈ failed ↔
        file ∈ (Builder.forRoot w root settings).selected files ∧
          IsStopped w root file := by
  refine ⟨fun _ _ _ _ => Extractor.extract_eq_error_iff, fun settings files => ?_⟩
  refine ⟨((Builder.forRoot w root settings).selected files).filter
    ((Builder.forRoot w root settings).fate · = .failed), ?_, List.filter_sublist,
    fun file => ?_⟩
  · rw [Builder.build_eq, Builder.failedFiles_buildGiven,
      Builder.filter_selected files (by decide)]
  · rw [List.mem_filter, decide_eq_true_eq, Builder.fate_eq_failed_iff,
      extractionFails_iff]
    refine and_congr_right fun hmem => and_iff_right ?_
    simpa using (List.mem_filter.1 hmem).2

end Builds

/-! ## A text that is too deep -/

namespace Rules.Rust

open UseTree

/-- A use declaration of so many groups inside one another takes a call more than there
are groups. -/
theorem nestsBeyond_nestedGroups {stack n : Nat} :
    NestsBeyond stack (useText (nestedGroups (n + 1))) ↔ stack ≤ n + 1 := by
  have hwritten := written_nestedGroups (lists_nestedGroups n)
  have hnames : ∀ name ∈ (Tree.group [] (nestedTrees n)).names, IsUseName name := by
    rw [Tree.names, namesOf_nestedTrees]
    exact List.forall_mem_nil _
  rw [nestsBeyond_useText (isClause_of_written hwritten hnames), depth_nestedGroups]
  exact Nat.lt_succ_iff

end Rules.Rust

/-- A project with one file of Rust. -/
def oneCrate : Workspace where
  cwd := "/p".toList
  tree := .directory [("p".toList, .directory [("a.rs".toList, .file [])])]

/-- A text that is no text of Go and asks for no module file ends its extraction all the
same. -/
theorem extraction_fails_of_nestedGroups :
    Language.ofPath? "/p/a.rs".toList ≠ some .go ∧
    (Extractor.forRoot oneCrate ['.']).extract "/p/a.rs".toList
      (Rules.Rust.useText (Rules.UseTree.nestedGroups 1000)) =
        .error (.useTree .tooDeep) := by
  have hlanguage : Language.ofPath? "/p/a.rs".toList = some .rust := by decide +kernel
  refine ⟨by rw [hlanguage]; decide,
    Extractor.extract_eq_error_iff.2 (.inr ⟨hlanguage, ?_, rfl⟩)⟩
  exact Rules.Rust.nestsBeyond_nestedGroups.2 (by decide)

end ImpactGraph
