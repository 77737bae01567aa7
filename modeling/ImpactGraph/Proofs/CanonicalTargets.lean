import ImpactGraph.Extraction
import ImpactGraph.Proofs.Answers
import ImpactGraph.Proofs.CanonicalPath
import ImpactGraph.Proofs.Expansions
import ImpactGraph.Proofs.PatternTakes

/-!
# Every target that rules find is an id

Most resolvers end with a normalisation and have nothing left to show. The
others put an ending on a path after it was normalised, and the module
declarations of Rust never normalise at all. Those are safe for two reasons
that have to be brought together: the file that declares the module is an id
itself, and the pattern that finds the declaration keeps word characters only
as the module's name, so the name cannot be `..` and cannot hold a slash.

From the resolvers the fact is carried over to the findings of each language,
whatever the text is.
-/

namespace ImpactGraph

namespace Resolve

open ImpactGraph.Path

variable {w : Workspace} {root file : Text}

/-- The first candidate that passes a test, or else the base. -/
theorem isId_find?_getD {candidates : List Text} {base : Text} {p : Text → Bool}
    (hc : ∀ candidate ∈ candidates, IsId candidate) (hb : IsId base) :
    IsId ((candidates.find? p).getD base) := by
  cases hf : candidates.find? p with
  | none => exact hb
  | some candidate => exact hc candidate (List.mem_of_find?_eq_some hf)

theorem isId_external (cwd root location target : Text) :
    IsId (Path.external cwd root location target) := isId_canonical _ _ _

theorem isName_of_mem_scriptSuffixes :
    ∀ suffix ∈ scriptSuffixes, suffix = [] ∨ IsName suffix := by decide

theorem isName_index_append :
    ∀ suffix ∈ scriptSuffixes, IsName ("index".toList ++ suffix) := by decide

theorem isId_of_mem_scriptCandidates {base candidate : Text} (hb : IsId base)
    (h : candidate ∈ scriptCandidates base) : IsId candidate := by
  obtain ⟨suffix, hs, hc⟩ := List.mem_flatMap.1 h
  rcases List.mem_cons.1 hc with rfl | hc
  · rcases isName_of_mem_scriptSuffixes suffix hs with rfl | hn
    · rwa [List.append_nil]
    · exact hb.append hn
  · rw [List.mem_singleton.1 hc]
    exact hb.join (isName_index_append suffix hs)

theorem isId_javascript (w : Workspace) (root file source : Text) :
    IsId (javascript w root file source) := by
  unfold javascript
  split
  · exact isId_find?_getD (fun _ => isId_of_mem_scriptCandidates (isId_canonical _ _ _))
      (isId_canonical _ _ _)
  · exact isId_external _ _ _ _

theorem isId_of_mem_pythonCandidates {base candidate : Text} (hb : IsId base)
    (h : candidate ∈ pythonCandidates base) : IsId candidate := by
  rcases List.mem_cons.1 h with rfl | h
  · exact hb.append (by decide)
  · rw [List.mem_singleton.1 h]
    exact hb.join (by decide)

theorem isId_pythonBase (w : Workspace) (root file module : Text) :
    IsId (pythonBase w root file module) := by
  unfold pythonBase
  split <;> exact isId_canonical _ _ _

theorem isId_python (w : Workspace) (root file module : Text) :
    IsId (python w root file module) :=
  isId_find?_getD (fun _ =>
    isId_of_mem_pythonCandidates (isId_pythonBase w root file module))
    (isId_pythonBase w root file module)

theorem isId_of_pythonSubmodule? {package name target : Text}
    (h : pythonSubmodule? w root file package name = some target) : IsId target := by
  simp only [pythonSubmodule?, Option.ite_none_right_eq_some, Option.some.injEq] at h
  rw [← h.2]
  exact isId_python _ _ _ _

theorem isId_goWithin (w : Workspace) (root : Text) (module : Option Text) (path : Text) :
    IsId (goWithin w root module path) := by
  unfold goWithin
  split
  · split
    · exact isId_canonical _ _ _
    · exact isId_external _ _ _ _
  · exact isId_external _ _ _ _

theorem isId_of_go {path target : Text} (h : go w root file path = .ok target) :
    IsId target := by
  simp only [go] at h
  split at h
  · rw [← Except.ok.inj h]
    exact isId_canonical _ _ _
  · obtain ⟨module, -, rfl⟩ := ok_of_map_eq_ok h
    exact isId_goWithin _ _ _ _

theorem isId_java (w : Workspace) (root qualified : Text) (isStatic wildcard : Bool) :
    IsId (java w root qualified isStatic wildcard) := by
  refine isId_find?_getD (fun candidate hc => ?_) (isId_canonical _ _ _)
  obtain ⟨source, -, rfl⟩ := List.mem_map.1 hc
  exact isId_canonical _ _ _

/-! ## Rust -/

theorem isId_rustChildren (h : IsId file) : IsId (rustChildren file) := by
  unfold rustChildren
  simp only []
  split
  · exact h.parent
  · obtain ⟨lead, names, hl, hn, rfl⟩ := h
    rcases List.eq_nil_or_concat names with rfl | ⟨init, last, rfl⟩
    · -- The top has no name, and joining with nothing leaves it as it is.
      refine ⟨lead, [], hl, hn, ?_⟩
      rcases hl with rfl | rfl <;> rfl
    · rw [List.concat_eq_append] at hn ⊢
      have hlast := hn last (by simp)
      rw [baseName_spell_concat hl hlast.no_slash]
      exact IsId.join (IsId.parent ⟨lead, _, hl, hn, rfl⟩) hlast.stem

theorem isId_of_mem_rustCandidates {base candidate : Text} (hb : IsId base)
    (h : candidate ∈ rustCandidates base) : IsId candidate := by
  rcases List.mem_cons.1 h with rfl | h
  · exact hb.append (by decide)
  · rw [List.mem_singleton.1 h]
    exact hb.join (by decide)

theorem isId_rustModule {name : Text} (h : IsId file) (hn : IsName name) :
    IsId (rustModule w file name) := by
  have hb : IsId (Path.join (rustChildren file) name) := (isId_rustChildren h).join hn
  exact isId_find?_getD (fun _ => isId_of_mem_rustCandidates hb) (hb.append (by decide))

theorem isId_rustBelow (w : Workspace) (root base : Text) (path : List Text) :
    IsId (rustBelow w root base path) := by
  unfold rustBelow
  split
  · exact isId_canonical _ _ _
  · split <;> exact isId_canonical _ _ _

theorem isId_rust (w : Workspace) (root file path : Text) :
    IsId (rust w root file path) := by
  unfold rust
  simp only []
  split
  · exact isId_canonical _ _ _
  · repeat' split
    all_goals first
      | exact isId_rustBelow _ _ _ _
      | exact isId_external _ _ _ _
      | exact isId_canonical _ _ _

end Resolve

/-! ## Findings -/

/-- A finding that names a file names it by its id. -/
def Finding.Canonical : Finding → Prop
  | .imports i => Path.IsId i.target
  | .dependsOn target => Path.IsId target
  | .exports _ => True

namespace Rules

open Resolve ImpactGraph.Path Pattern

variable {w : Workspace} {root file content : Text} {f : Finding}

theorem canonical_of_mem_singleton {a : Finding} (hf : f ∈ [a]) (h : a.Canonical) :
    f.Canonical := by
  rw [List.mem_singleton.1 hf]
  exact h

theorem canonical_of_mem_pair {a b : Finding} (hf : f ∈ [a, b]) (ha : a.Canonical)
    (hb : b.Canonical) : f.Canonical := by
  rcases List.mem_cons.1 hf with rfl | hf
  · exact ha
  · exact canonical_of_mem_singleton hf hb

theorem canonical_of_mem_exports {α : Type} {items : List α} {name : α → Text}
    (hf : f ∈ items.map fun item => Finding.exports (name item)) : f.Canonical := by
  obtain ⟨item, -, rfl⟩ := List.mem_map.1 hf
  trivial

namespace JavaScript

/-- A finding that names no other file than a site's target, and no other line than the
site's. -/
def Site.Covers (site : Site) : Finding → Prop
  | .imports i => i.target = site.target ∧ i.line = site.line
  | .dependsOn target => target = site.target
  | .exports _ => True

variable {site : Site}

theorem Site.Covers.canonical (h : site.Covers f) (hsite : IsId site.target) :
    f.Canonical := by
  cases f with
  | imports i =>
      show IsId i.target
      rw [h.1]
      exact hsite
  | dependsOn target =>
      show IsId target
      rw [h]
      exact hsite
  | exports name => trivial

/-- What a declaration at a site can find: a symbol that is brought in from there, the
edge, an export. -/
inductive Site.Finds (site : Site) : Finding → Prop
  | bring (symbol : Text) (kind : ImportKind) (renamed : Option Text) :
    site.Finds (site.bring symbol kind renamed)
  | edge : site.Finds (.dependsOn site.target)
  | exports (name : Text) : site.Finds (.exports name)

theorem Site.Finds.covers (h : site.Finds f) : site.Covers f := by
  cases h with
  | bring symbol kind renamed => exact ⟨rfl, rfl⟩
  | edge => rfl
  | exports name => trivial

theorem finds_of_mem_singleton {a : Finding} (hf : f ∈ [a]) (h : site.Finds a) :
    site.Finds f := by
  rw [List.mem_singleton.1 hf]
  exact h

theorem finds_of_mem_headBindings {typeOnly : Bool} {head : Text}
    (hf : f ∈ headBindings site typeOnly head) : site.Finds f := by
  unfold headBindings at hf
  simp only [] at hf
  split at hf
  · split at hf
    · exact finds_of_mem_singleton hf (.bring _ _ _)
    · exact absurd hf List.not_mem_nil
  · split at hf
    · exact absurd hf List.not_mem_nil
    · rcases List.mem_append.1 hf with hf | hf
      all_goals
        split at hf
        · exact finds_of_mem_singleton hf (.bring _ _ _)
        · exact absurd hf List.not_mem_nil

theorem finds_of_mem_clauseBindings {typeOnly : Bool} {clause : Text}
    (hf : f ∈ clauseBindings site typeOnly clause) : site.Finds f := by
  rcases List.mem_append.1 hf with hf | hf
  · exact finds_of_mem_headBindings hf
  · obtain ⟨s, -, rfl⟩ := List.mem_map.1 hf
    exact .bring _ _ _

theorem finds_of_mem_importFindings {typeOnly : Bool} {clause : Text}
    (hf : f ∈ importFindings site typeOnly clause) : site.Finds f := by
  unfold importFindings at hf
  simp only [] at hf
  split at hf
  · exact absurd hf List.not_mem_nil
  · split at hf
    · rcases List.mem_append.1 hf with hf | hf
      · exact finds_of_mem_clauseBindings hf
      · exact finds_of_mem_singleton hf .edge
    · exact absurd hf List.not_mem_nil

theorem finds_of_mem_requireFindings {binding : Option Text}
    (hf : f ∈ requireFindings site binding) : site.Finds f := by
  rcases List.mem_append.1 hf with hf | hf
  · split at hf
    · exact absurd hf List.not_mem_nil
    · split at hf
      · obtain ⟨s, -, rfl⟩ := List.mem_map.1 hf
        exact .bring _ _ _
      · exact finds_of_mem_singleton hf (.bring _ _ _)
  · exact finds_of_mem_singleton hf .edge

theorem finds_of_mem_reexportFindings {typeOnly : Bool} {spec : Text}
    {renamed : Option Text} (hf : f ∈ reexportFindings site typeOnly spec renamed) :
    site.Finds f := by
  have hpair {symbol : Text} {kind : ImportKind} {name : Text}
      (hf : f ∈ [site.bring symbol kind, .exports name]) : site.Finds f := by
    rcases List.mem_cons.1 hf with rfl | hf
    · exact .bring _ _ _
    · exact finds_of_mem_singleton hf (.exports _)
  rcases List.mem_append.1 hf with hf | hf
  · split at hf
    · obtain ⟨s, -, hf⟩ := List.mem_flatMap.1 hf
      exact hpair hf
    · split at hf
      · exact hpair hf
      · exact absurd hf List.not_mem_nil
  · exact finds_of_mem_singleton hf .edge

theorem canonical_of_mem_findings (hf : f ∈ findings w root file content) :
    f.Canonical := by
  simp only [findings, List.mem_append, List.mem_flatMap] at hf
  rcases hf with (((((⟨m, -, hf⟩ | hf) | ⟨m, -, hf⟩) | ⟨m, -, hf⟩) | hf) | ⟨m, -, hf⟩) |
    ⟨m, -, hf⟩
  · exact (finds_of_mem_importFindings hf).covers.canonical (isId_javascript _ _ _ _)
  · obtain ⟨m, -, rfl⟩ := List.mem_map.1 hf
    exact isId_javascript _ _ _ _
  · exact (finds_of_mem_requireFindings hf).covers.canonical (isId_javascript _ _ _ _)
  · exact (finds_of_mem_reexportFindings hf).covers.canonical (isId_javascript _ _ _ _)
  · exact canonical_of_mem_exports hf
  · exact canonical_of_mem_exports hf
  · split at hf
    · exact absurd hf List.not_mem_nil
    · exact canonical_of_mem_singleton hf trivial

end JavaScript

namespace Python

theorem canonical_of_mem_nameFindings {package target : Text} {line : Nat}
    {entry : Text × Option Text} (h : IsId target)
    (hf : f ∈ (nameFindings w root file package target line entry).1) : f.Canonical := by
  unfold nameFindings at hf
  split at hf
  · exact canonical_of_mem_singleton hf h
  · split at hf
    · exact absurd hf List.not_mem_nil
    · split at hf
      · next submodule hs =>
          exact canonical_of_mem_pair hf (isId_of_pythonSubmodule? hs)
            (isId_of_pythonSubmodule? hs)
      · exact canonical_of_mem_singleton hf h

theorem canonical_of_mem_fromFindings {package clause : Text} {line : Nat}
    (hf : f ∈ fromFindings w root file package clause line) : f.Canonical := by
  rcases List.mem_append.1 hf with hf | hf
  · obtain ⟨found, hfound, hf⟩ := List.mem_flatMap.1 hf
    obtain ⟨entry, -, rfl⟩ := List.mem_map.1 hfound
    exact canonical_of_mem_nameFindings (isId_python _ _ _ _) hf
  · split at hf
    · exact canonical_of_mem_singleton hf (isId_python _ _ _ _)
    · exact absurd hf List.not_mem_nil

theorem canonical_of_mem_plainFindings {clause : Text} {line : Nat}
    (hf : f ∈ plainFindings w root file clause line) : f.Canonical := by
  obtain ⟨entry, -, hf⟩ := List.mem_flatMap.1 hf
  split at hf
  · exact canonical_of_mem_pair hf (isId_python _ _ _ _) (isId_python _ _ _ _)
  · exact absurd hf List.not_mem_nil

theorem canonical_of_mem_findings (hf : f ∈ findings w root file content) :
    f.Canonical := by
  simp only [findings, List.mem_append, List.mem_flatMap] at hf
  rcases hf with ((⟨m, -, hf⟩ | ⟨m, -, hf⟩) | hf) | ⟨m, -, hf⟩
  · exact canonical_of_mem_fromFindings hf
  · exact canonical_of_mem_plainFindings hf
  · exact canonical_of_mem_exports hf
  · exact canonical_of_mem_exports hf

end Python

namespace Java

theorem canonical_of_mem_findings (hf : f ∈ findings w root content) : f.Canonical := by
  simp only [findings, List.mem_append, List.mem_flatMap] at hf
  rcases hf with ⟨m, -, hf⟩ | hf
  · unfold importFindings at hf
    rcases List.mem_cons.1 hf with rfl | hf
    · simp only [Finding.Canonical]
      split <;> exact isId_java _ _ _ _ _
    · exact canonical_of_mem_singleton hf (isId_java _ _ _ _ _)
  · exact canonical_of_mem_exports hf

end Java

namespace Go

theorem canonical_of_mem_importFindings {renamed : Option Text} {path : Text} {line : Nat}
    {found : List Finding} (h : importFindings w root file renamed path line = .ok found)
    (hf : f ∈ found) : f.Canonical := by
  obtain ⟨target, hgo, rfl⟩ := ok_of_map_eq_ok h
  exact canonical_of_mem_pair hf (isId_of_go hgo) (isId_of_go hgo)

theorem canonical_of_mem_findings {found : List Finding}
    (h : findings w root file content = .ok found) (hf : f ∈ found) : f.Canonical := by
  obtain ⟨imports, himports, rfl⟩ := ok_of_map_eq_ok h
  rcases List.mem_append.1 hf with hf | hf
  · obtain ⟨found, hfound, hf⟩ := List.mem_flatten.1 hf
    obtain ⟨spec, -, hspec⟩ := exists_of_mem_mapM himports hfound
    exact canonical_of_mem_importFindings hspec hf
  · exact canonical_of_mem_exports hf

end Go

namespace Rust

theorem isName_of_takes {name : Text} (h : (many1 Text.isWord).Takes name) :
    IsName name := by
  obtain ⟨hne, hword⟩ := takes_many1.1 h
  have hslash : '/' ∉ name := fun hmem => absurd (hword _ hmem) (by decide)
  obtain ⟨c, hc⟩ := List.exists_mem_of_ne_nil name hne
  exact .of_mem_ne_dot hc (fun hdot => absurd (hword c hc) (by rw [hdot]; decide)) hslash

/-- A module that a text declares has a name: word characters make neither `..` nor a
slash. -/
theorem isName_of_mem_findAll {m : Match} (h : m ∈ moduleDeclaration.findAll content) :
    IsName (m.part .name) := by
  refine of_part ?_ ?_ h
  · simpa [moduleDeclaration, inlineGap, inlineSpace, visibility, Keeps]
      using fun _ => isName_of_takes
  · simp [moduleDeclaration, Catches]

theorem canonical_of_mem_moduleFindings {name : Text} {line : Nat} (hfile : IsId file)
    (hname : IsName name) (hf : f ∈ moduleFindings w file name line) : f.Canonical :=
  canonical_of_mem_pair hf (isId_rustModule hfile hname) (isId_rustModule hfile hname)

theorem canonical_of_mem_useFindings {entry : Text} {line : Nat}
    (hf : f ∈ useFindings w root file entry line) : f.Canonical := by
  unfold useFindings at hf
  exact canonical_of_mem_pair hf (isId_rust _ _ _ _) (isId_rust _ _ _ _)

theorem canonical_of_mem_findings {found : List Finding} (hfile : IsId file)
    (h : findings w root file content = .ok found) (hf : f ∈ found) : f.Canonical := by
  rw [eq_allFindings h] at hf
  simp only [allFindings, List.mem_append, List.mem_flatMap] at hf
  rcases hf with (⟨m, hm, hf⟩ | ⟨m, -, entry, -, hf⟩) | hf
  · exact canonical_of_mem_moduleFindings hfile (isName_of_mem_findAll hm) hf
  · exact canonical_of_mem_useFindings hf
  · exact canonical_of_mem_exports hf

end Rust

end Rules

/-- Whatever the language and the text, what is found in a file named by its id is named
by its id. -/
theorem canonical_of_mem_findings {w : Workspace} {root file content : Text}
    {language : Language} {found : List Finding} (hfile : Path.IsId file)
    (h : findings w root file content language = .ok found) :
    ∀ f ∈ found, f.Canonical := by
  intro f hf
  cases language with
  | go => exact Rules.Go.canonical_of_mem_findings (mapError_eq_ok_iff.1 h) hf
  | typescript | javascript =>
      rw [← Except.ok.inj h] at hf
      exact Rules.JavaScript.canonical_of_mem_findings hf
  | python =>
      rw [← Except.ok.inj h] at hf
      exact Rules.Python.canonical_of_mem_findings hf
  | java =>
      rw [← Except.ok.inj h] at hf
      exact Rules.Java.canonical_of_mem_findings hf
  | rust => exact Rules.Rust.canonical_of_mem_findings hfile (mapError_eq_ok_iff.1 h) hf

end ImpactGraph
