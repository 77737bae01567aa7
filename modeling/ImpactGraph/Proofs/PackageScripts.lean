import ImpactGraph.Proofs.PackageLines

/-!
# Scripts that import packages and modules

What a script of import statements says is what the rule finds: first what the
statements take from packages, then the modules they import, each with the line
on which its statement starts. A statement that goes over many lines is one
block, so the lines are counted through it.

An edge leads to a package only where a statement needs it: for a star, or for
a name that is no file of its own.
-/

namespace ImpactGraph.Rules.Python

open Text Pattern

namespace Statement

variable (w : Workspace) (root file : Text)

/-- What a statement takes from a package. -/
def taken (s : Statement) (line : Nat) : List Import :=
  match s with
  | modules _ => []
  | names package clause => clause.imports w root file package line

/-- The modules that a statement imports. -/
def loaded (s : Statement) (line : Nat) : List Import :=
  match s with
  | modules entries => moduleImports w root file line entries
  | names _ _ => []

/-- The files that a statement leads to for what it takes from a package. -/
def takenFrom : Statement → List Text
  | modules _ => []
  | names package clause => clause.targets w root file package

/-- The files of the modules that a statement imports. -/
def loadedFrom : Statement → List Text
  | modules entries => entries.map fun e => Resolve.python w root file e.name
  | names _ _ => []

end Statement

section Scripts

variable {w : Workspace} {root file : Text} {ended : Bool} {statements : List Statement}

/-- What the pass over packages finds for one statement. -/
def Statement.takenFindings (w : Workspace) (root file : Text) (s : Statement)
    (line : Nat) : List Finding :=
  match s with
  | modules _ => []
  | names package clause => fromFindings w root file package clause.text line

/-- What the pass over modules finds for one statement. -/
def Statement.loadedFindings (w : Workspace) (root file : Text) (s : Statement)
    (line : Nat) : List Finding :=
  match s with
  | modules entries =>
    plainFindings w root file (join ", ".toList (entries.map Entry.text)) line
  | names _ _ => []

theorem flatMap_fromImport (h : ∀ s ∈ statements, s.IsProper) (script : Text)
    (hscript : script = stack ended (statements.map Statement.text)) :
    (fromImport.findAll script).flatMap (fun m =>
        fromFindings w root file (m.part .source) (m.part .clause)
          (lineAt script m.start)) =
      (numbered Statement.text 1 statements).flatMap fun x =>
        x.1.takenFindings w root file x.2 := by
  subst hscript
  refine flatMap_findAll_stack
    (fun c hend => matchAt_of_endsBlock leads_fromImport (by decide) hend)
    fun s hs c tail hrest hbefore htail => ?_
  obtain ⟨ms, hms, hread⟩ := foundFrom_fromImport (h s hs) hrest hbefore htail
  refine ⟨ms, hms, ?_⟩
  cases s with
  | modules entries =>
      obtain rfl : ms = [] := hread
      rfl
  | names package clause =>
      obtain ⟨m, rfl, hstart, hsource, hclause⟩ := hread
      rw [List.flatMap_singleton, hstart, hsource, hclause]
      rfl

theorem flatMap_plainImport (h : ∀ s ∈ statements, s.IsProper) (script : Text)
    (hscript : script = stack ended (statements.map Statement.text)) :
    (plainImport.findAll script).flatMap (fun m =>
        plainFindings w root file (m.part .clause) (lineAt script m.start)) =
      (numbered Statement.text 1 statements).flatMap fun x =>
        x.1.loadedFindings w root file x.2 := by
  subst hscript
  refine flatMap_findAll_stack
    (fun c hend => matchAt_of_endsBlock leads_plainImport (by decide) hend)
    fun s hs c tail hrest hbefore htail => ?_
  obtain ⟨ms, hms, hread⟩ := foundFrom_plainImport (h s hs) hrest hbefore htail
  refine ⟨ms, hms, ?_⟩
  cases s with
  | modules entries =>
      obtain ⟨m, rfl, hstart, hclause⟩ := hread
      rw [List.flatMap_singleton, hstart, hclause]
      rfl
  | names package clause =>
      obtain rfl : ms = [] := hread
      rfl

theorem imports_takenFindings {s : Statement} (h : s.IsProper) (line : Nat) :
    (s.takenFindings w root file line).filterMap Finding.import? =
      s.taken w root file line := by
  cases s with
  | modules entries => rfl
  | names package clause => exact imports_fromFindings h.2

theorem targets_takenFindings {s : Statement} (h : s.IsProper) (line : Nat) :
    (s.takenFindings w root file line).filterMap Finding.target? =
      s.takenFrom w root file := by
  cases s with
  | modules entries => rfl
  | names package clause => exact targets_fromFindings h.2

theorem imports_loadedFindings {s : Statement} (h : s.IsProper) (line : Nat) :
    (s.loadedFindings w root file line).filterMap Finding.import? =
      s.loaded w root file line := by
  cases s with
  | modules entries =>
      show (plainFindings w root file _ line).filterMap Finding.import? = _
      rw [plainFindings_text h.2, Finding.imports_of_pairs]
      rfl
  | names package clause => rfl

theorem targets_loadedFindings {s : Statement} (h : s.IsProper) (line : Nat) :
    (s.loadedFindings w root file line).filterMap Finding.target? =
      s.loadedFrom w root file := by
  cases s with
  | modules entries =>
      show (plainFindings w root file _ line).filterMap Finding.target? = _
      rw [plainFindings_text h.2, Finding.targets_of_pairs, moduleImports, List.map_map]
      rfl
  | names package clause => rfl

theorem findings_stack (h : ∀ s ∈ statements, s.IsProper) :
    ∃ exported : List Text,
      findings w root file (stack ended (statements.map Statement.text)) =
      ((numbered Statement.text 1 statements).flatMap fun x =>
        x.1.takenFindings w root file x.2) ++
        ((numbered Statement.text 1 statements).flatMap fun x =>
          x.1.loadedFindings w root file x.2) ++
        exported.map .exports := by
  obtain ⟨exported, hfindings⟩ :=
    exists_findings_eq w root file (stack ended (statements.map Statement.text))
  exact ⟨exported, by
    rw [hfindings, flatMap_fromImport h _ rfl, flatMap_plainImport h _ rfl]⟩

/-- Import statements give back, those of packages first, what they import on which line,
and an edge to each file that they lead to. -/
theorem imports_edges_of_statements (w : Workspace) (root file : Text) (ended : Bool)
    (statements : List Statement) (h : ∀ s ∈ statements, s.IsProper) :
    let facts := FileFacts.ofFindings file .python
      (findings w root file (stack ended (statements.map Statement.text)))
    facts.imports = (numbered Statement.text 1 statements).flatMap (fun x =>
      x.1.taken w root file x.2) ++
        (numbered Statement.text 1 statements).flatMap (fun x =>
          x.1.loaded w root file x.2) ∧
      facts.edges = distinct (statements.flatMap (Statement.takenFrom w root file) ++
        statements.flatMap (Statement.loadedFrom w root file)) := by
  obtain ⟨exported, hfindings⟩ := @findings_stack w root file ended statements h
  have hproper {x : Statement × Nat} (hx : x ∈ numbered Statement.text 1 statements) :
      x.1.IsProper :=
    h x.1 (mem_of_mem_numbered hx)
  rw [hfindings, FileFacts.ofFindings_eq]
  constructor
  · show List.filterMap Finding.import? _ = _
    rw [List.filterMap_append, List.filterMap_append, Finding.imports_of_exports,
      List.append_nil, List.filterMap_flatMap,
      List.filterMap_flatMap]
    exact congrArg₂ (· ++ ·) (List.flatMap_congr fun x hx =>
      imports_takenFindings (hproper hx) x.2)
      (List.flatMap_congr fun x hx => imports_loadedFindings (hproper hx) x.2)
  · show distinct (List.filterMap Finding.target? _) = _
    rw [List.filterMap_append, List.filterMap_append, Finding.targets_of_exports,
      List.append_nil, List.filterMap_flatMap,
      List.filterMap_flatMap, ← flatMap_numbered (Statement.takenFrom w root file),
      ← flatMap_numbered (Statement.loadedFrom w root file)]
    exact congrArg distinct (congrArg₂ (· ++ ·)
      (List.flatMap_congr fun x hx => targets_takenFindings (hproper hx) x.2)
      (List.flatMap_congr fun x hx => targets_loadedFindings (hproper hx) x.2))

end Scripts

/-- A package of two modules, one of them with a script. -/
def packageOfTwo : Workspace where
  cwd := "/p".toList
  tree := .directory [("p".toList, .directory [("q".toList, .directory
    [("__init__.py".toList, .file []), ("m.py".toList, .file []),
      ("sub.py".toList, .file [])])])]

/-- A list over three lines, the same package twice, a star, and modules. -/
def mixedStatements : List Statement := [
  .names ".".toList (.spread
    [(⟨"sub".toList, some "s".toList⟩, ⟨"\n  ".toList, " ".toList, "\t".toList, []⟩),
      (⟨"f".toList, none⟩, ⟨"\n  ".toList, " ".toList, " ".toList, []⟩)]
        (some "\n".toList)),
  .modules [⟨"os.path".toList, some "x".toList⟩, ⟨"q".toList, none⟩],
  .names "q".toList (.line [⟨"sub".toList, none⟩, ⟨"sub".toList, some "t".toList⟩]),
  .names "..r".toList .star]

theorem proper_mixedStatements : ∀ s ∈ mixedStatements, s.IsProper := by
  have hname : ∀ name ∈ ["sub".toList, "s".toList, "f".toList, "os".toList,
    "path".toList, "x".toList,
      "q".toList, "t".toList, "r".toList], IsName name :=
    fun name hname =>
      ⟨by revert name; decide, by revert name; decide, by revert name; decide⟩
  have hone {name : Text} (h : IsName name) : (⟨name, none⟩ : Entry).IsProper IsName :=
    ⟨h, by simp⟩
  have htwo {name other : Text} (h : IsName name) (hother : IsName other) :
      (⟨name, some other⟩ : Entry).IsProper IsName := ⟨h, by simpa using hother⟩
  have hpath : IsModule "os.path".toList := by
    refine ⟨["os".toList, "path".toList], by decide, fun name h => ?_, by decide⟩
    exact hname name (by revert name; decide)
  have hsub := hname "sub".toList (by decide)
  have hgaps (lead : Text) (before : Char) (after : Char)
      (h : (∀ c ∈ lead, isBlank c = true) ∧ isBlank before = true ∧
        isBlank after = true) : Gaps.IsProper ⟨lead, [before], [after], []⟩ := by
    refine ⟨?_, List.cons_ne_nil _ _, List.cons_ne_nil _ _⟩
    simpa [Gaps.all] using h
  simp only [mixedStatements, List.forall_mem_cons, Statement.IsProper]
  refine ⟨⟨.relative 0 (.inl rfl), List.cons_ne_nil _ _, ?_, ?_⟩,
    ⟨List.cons_ne_nil _ _, ?_⟩,
    ⟨.absolute (hname _ (by decide)).module, List.cons_ne_nil _ _, ?_⟩,
    ⟨.relative 1 (.inr (hname "r".toList (by decide)).module), trivial⟩,
    List.forall_mem_nil _⟩
  · simp only [List.forall_mem_cons]
    exact ⟨⟨htwo hsub (hname _ (by decide)), hgaps _ _ _ (by decide)⟩,
      ⟨hone (hname _ (by decide)), hgaps _ _ _ (by decide)⟩, List.forall_mem_nil _⟩
  · rintro gap ⟨⟩
    decide
  · exact ⟨⟨hpath, by simpa using hname "x".toList (by decide)⟩,
      (hone (hname _ (by decide))).module, List.forall_mem_nil _⟩
  · exact List.forall_mem_cons.2 ⟨hone hsub,
      List.forall_mem_cons.2 ⟨htwo hsub (hname _ (by decide)), List.forall_mem_nil _⟩⟩

theorem imports_edges_of_mixedStatements :
    let facts := FileFacts.ofFindings "/p/q/m.py".toList .python
      (findings packageOfTwo "/p".toList "/p/q/m.py".toList
        ("from . import (\n  sub as\ts,\n  f,\n)\nimport os.path as x, q\n" ++
          "from q import sub, sub as t\nfrom ..r import *\n").toList)
    facts.imports = [
        ⟨"sub".toList, "/p/q/sub.py".toList, .named, ".".toList, 1, some "s".toList⟩,
        ⟨"f".toList, "/p/q/__init__.py".toList, .named, ".".toList, 1, none⟩,
        ⟨"sub".toList, "/p/q/sub.py".toList, .named, "q".toList, 6, none⟩,
        ⟨"sub".toList, "/p/q/sub.py".toList, .named, "q".toList, 6, some "t".toList⟩,
        ⟨"*".toList, "/p/r".toList, .whole, "..r".toList, 7, none⟩,
        ⟨"os.path".toList, "/p/os/path".toList, .whole, "os.path".toList, 5,
          some "x".toList⟩,
        ⟨"q".toList, "/p/q/__init__.py".toList, .whole, "q".toList, 5, none⟩] ∧
      facts.edges = ["/p/q/sub.py".toList, "/p/q/__init__.py".toList, "/p/r".toList,
        "/p/os/path".toList] := by
  have hfacts :=
    imports_edges_of_statements packageOfTwo "/p".toList "/p/q/m.py".toList true
      mixedStatements
    proper_mixedStatements
  have hscript : stack true (mixedStatements.map Statement.text) =
      ("from . import (\n  sub as\ts,\n  f,\n)\nimport os.path as x, q\n" ++
        "from q import sub, sub as t\nfrom ..r import *\n").toList := by
    decide +kernel
  rw [hscript] at hfacts
  exact ⟨hfacts.1.trans (by decide +kernel), hfacts.2.trans (by decide +kernel)⟩

end ImpactGraph.Rules.Python
