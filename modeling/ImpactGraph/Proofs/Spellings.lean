import ImpactGraph.Proofs.Fates
import ImpactGraph.Proofs.NormalLookup

/-!
# The ids of one file

Where a spelling leads to a place, its id consists of two parts: the names on
the way to the place, which the place alone decides, and the slashes in front,
which come from the spelling. So two spellings of one file can differ in their
ids only by the slashes in front, and they do so where one of them is read from
exactly two slashes and the other is not. Up to this, a file has one id, one
node in a graph, and every spelling finds it.
-/

namespace ImpactGraph

open ImpactGraph.Path

variable {w : Workspace} {root path p q : Text} {place place' : Place}

/-! ## Ids spelled out -/

theorem Workspace.canonical_eq_spell (h : w.lookup (w.address root path) = .ok place) :
    w.canonical root path =
      spell (leadingSlashes (w.address root path)) place.location := by
  obtain ⟨-, hlocation⟩ := w.location_of_lookup h
  rw [Path.join, if_pos (w.isAbsolute_address root path)] at hlocation
  rw [canonical_eq_normal_address, normal, hlocation]
  rfl

theorem Workspace.canonical_eq_iff (hp : w.lookup (w.address root p) = .ok place)
    (hq : w.lookup (w.address root q) = .ok place')
    (hsame : place.location = place'.location) :
    w.canonical root p = w.canonical root q ↔
      leadingSlashes (w.address root p) = leadingSlashes (w.address root q) := by
  have hnames := (Workspace.location_of_lookup hp).1.isName
  rw [canonical_eq_spell hp, canonical_eq_spell hq, ← hsame]
  constructor
  · intro h
    have hlead := congrArg leadingSlashes h
    rwa [leadingSlashes_spell (isLead_leadingSlashes _) hnames,
      leadingSlashes_spell (isLead_leadingSlashes _) hnames] at hlead
  · intro h
    rw [h]

/-- An id that leads to a place is spelled by the slashes it starts with and the names of
the place. -/
theorem Path.IsId.eq_spell {id : Text} (h : IsId id) (hplace : w.lookup id = .ok place) :
    id = spell (leadingSlashes id) place.location := by
  have haddress : w.address id id = id := by
    rw [Workspace.address, Path.join, if_pos h.isAbsolute]
  have hplace' : w.lookup (w.address id id) = .ok place := by rwa [haddress]
  have hspell := w.canonical_eq_spell hplace'
  rwa [haddress, Workspace.canonical, h.canonical_eq] at hspell

/-! ## Nodes -/

/-- What leads somewhere is not missing. -/
theorem Workspace.read_ne_missing (h : w.lookup path = .ok place) :
    w.read path ≠ .error .missing := by
  simp only [read, h]
  split <;> exact nofun

theorem Builder.fate_eq_processed {b : Builder} {files : List Text} {id : Text}
    {behaviour : Text → Option Indexer.Behaviour} {g : Graph}
    (hg : (b.buildGiven behaviour files).graph = .ok g) (hid : id ∈ b.ids files)
    (hfound : b.workspace.lookup id = .ok place) (hkept : b.isExcluded id = false)
    (hfacts : ¬ b.ExtractionFails id) : b.fate id = .processed := by
  cases hf : b.fate id with
  | processed => rfl
  | excluded => exact absurd (fate_eq_excluded_iff.1 hf) (by simp [hkept])
  | missing =>
      have hmissing := (fate_eq_missing_iff.1 hf).2
      exact absurd (readText_eq_error_iff.1 hmissing) (Workspace.read_ne_missing hfound)
  | unreadable => exact absurd hf (fate_ne_unreadable hg hid)
  | failed => exact absurd (fate_eq_failed_iff.1 hf).2 hfacts

theorem Builder.Runs.exists_node {settings : AnalyzerSettings} {files : List Text}
    {r : BuildResult} {g : Graph} (h : (Builder.forRoot w root settings).Runs files r)
    (hg : r.graph = .ok g) (hmem : path ∈ files)
    (hfound : w.lookup (w.canonical root path) = .ok place)
    (hkept : Exclusion.excludes settings.excludePatterns (w.canonical root path) = false)
    (hfacts :
      ¬ (Builder.forRoot w root settings).ExtractionFails (w.canonical root path)) :
    ∃ node ∈ g.nodes,
      node.file = w.canonical root path ∧ g.dependencies path = some node := by
  obtain ⟨behaviour, rfl⟩ := h.exists_given
  have hid : w.canonical root path ∈ (Builder.forRoot w root settings).ids files := by
    rw [Builder.ids_forRoot, Text.mem_distinct]
    exact List.mem_map_of_mem hmem
  have hprocessed := Builder.fate_eq_processed hg hid hfound hkept hfacts
  have hkey : w.canonical root path ∈ g.nodes.map (·.file) := by
    rw [Builder.files_buildGiven h hg, List.mem_filter, decide_eq_true_eq]
    exact ⟨hid, hprocessed⟩
  obtain ⟨node, hnode, hfile⟩ := List.mem_map.1 hkey
  refine ⟨node, hnode, hfile, ?_⟩
  rw [Graph.dependencies, canonical_of_runs h hg]
  exact (Graph.node?_eq_some_iff (h.nodup_files hg)).2 ⟨hnode, hfile⟩

/-- Two spellings that lead to one place have one id just when they are read from equally
many slashes, counted as one unless they are exactly two. Then a graph that was built from
one of them answers both alike, and has one node for the file, unless another was made for
it by ids with other slashes. -/
theorem one_id_iff_same_slashes (hp : w.lookup (w.address root p) = .ok place)
    (hq : w.lookup (w.address root q) = .ok place')
    (hsame : place.location = place'.location) :
    (w.canonical root p = w.canonical root q ↔
      leadingSlashes (w.address root p) = leadingSlashes (w.address root q)) ∧
    (leadingSlashes (w.address root p) = leadingSlashes (w.address root q) →
      ∀ settings files r g, p ∈ files → (Builder.forRoot w root settings).Runs files r →
        r.graph = .ok g →
        g.dependencies p = g.dependencies q ∧ g.dependents p = g.dependents q ∧
        (Exclusion.excludes settings.excludePatterns (w.canonical root p) = false →
          ¬ (Builder.forRoot w root settings).ExtractionFails (w.canonical root p) →
          ∃ node ∈ g.nodes, g.dependencies p = some node ∧ g.dependencies q = some node ∧
            ∀ other ∈ g.nodes, ∀ there, w.lookup other.file = .ok there →
              there.location = place.location →
              leadingSlashes other.file = leadingSlashes (w.address root p) →
                other = node)) := by
  have hiff := w.canonical_eq_iff hp hq hsame
  refine ⟨hiff, fun hlead settings files r g hmem h hg => ?_⟩
  have hid : g.canonical p = g.canonical q := by
    rw [canonical_of_runs h hg, canonical_of_runs h hg, hiff.2 hlead]
  have hfound := w.lookup_canonical hp
  refine ⟨congrArg g.node? hid, congrArg g.dependentsOf hid, fun hkept hfacts => ?_⟩
  obtain ⟨node, hnode, hfile, hlookup⟩ := h.exists_node hg hmem hfound hkept hfacts
  have hlookup' : g.dependencies q = some node :=
    (congrArg g.node? hid).symm.trans hlookup
  refine ⟨node, hnode, hlookup, hlookup',
    fun other hother there hthere hplace hslashes => ?_⟩
  have hother' : IsId other.file := (h.canonical_of_mem_nodes hg hother).file
  have hkey : other.file = node.file := by
    rw [hother'.eq_spell hthere, hslashes, hplace, hfile, w.canonical_eq_spell hp]
  exact List.inj_on_of_nodup_map (h.nodup_files hg) hother hnode hkey

/-- A file that is read and its spelling from exactly two slashes lead to one place under
two ids, and a graph built from the one does not know the other. -/
theorem two_ids_of_doubledSlash :
    ∃ place, oneFile.lookup (oneFile.address ['.'] "a.py".toList) = .ok place ∧
      oneFile.lookup (oneFile.address ['.'] "//p/a.py".toList) = .ok place ∧
      place.here.isDirectory = false ∧
      oneFile.canonical ['.'] "a.py".toList ≠ oneFile.canonical ['.'] "//p/a.py".toList ∧
      ∃ g both, ((Builder.forRoot oneFile ['.'] {}).build ["a.py".toList]).graph = .ok g ∧
        g.has "a.py".toList = true ∧ g.has "//p/a.py".toList = false ∧
        ((Builder.forRoot oneFile ['.'] {}).build
          ["a.py".toList, "//p/a.py".toList]).graph = .ok both ∧ both.fileCount = 2 := by
  obtain ⟨g, hg, hhas⟩ : ∃ g, ((Builder.forRoot oneFile ['.'] {}).build
      ["a.py".toList]).graph = .ok g ∧
      (g.has "a.py".toList, g.has "//p/a.py".toList) = (true, false) := by
    refine ok_of_map_eq_ok (g := fun g : Graph =>
      (g.has "a.py".toList, g.has "//p/a.py".toList)) ?_
    decide +kernel
  obtain ⟨both, hboth, hcount⟩ : ∃ g, ((Builder.forRoot oneFile ['.'] {}).build
      ["a.py".toList, "//p/a.py".toList]).graph = .ok g ∧ g.fileCount = 2 := by
    refine ok_of_map_eq_ok (g := Graph.fileCount) ?_
    decide +kernel
  obtain ⟨hknown, hunknown⟩ := Prod.mk.inj hhas
  exact ⟨_, rfl, rfl, rfl, by decide, g, both, hg, hknown, hunknown, hboth, hcount⟩

theorem one_id_of_dottedSpelling :
    ∃ place g, oneFile.lookup (oneFile.address ['.'] "a.py".toList) = .ok place ∧
      oneFile.lookup (oneFile.address ['.'] "/../p/./../p//a.py".toList) = .ok place ∧
      ((Builder.forRoot oneFile ['.'] {}).build
        ["/../p/./../p//a.py".toList, "a.py".toList]).graph = .ok g ∧
      g.dependencies "a.py".toList = g.dependencies "/../p/./../p//a.py".toList ∧
      ∃ node ∈ g.nodes, g.dependencies "a.py".toList = some node ∧
        node.file = "/p/a.py".toList := by
  obtain ⟨g, hg, hfiles⟩ : ∃ g, ((Builder.forRoot oneFile ['.'] {}).build
      ["/../p/./../p//a.py".toList, "a.py".toList]).graph = .ok g ∧
      g.nodes.map (·.file) = ["/p/a.py".toList] := by
    refine ok_of_map_eq_ok (g := fun g : Graph => g.nodes.map (·.file)) ?_
    decide +kernel
  have hid : oneFile.canonical ['.'] "a.py".toList = "/p/a.py".toList := by decide
  have hfacts :
      ¬ (Builder.forRoot oneFile ['.'] {}).ExtractionFails "/p/a.py".toList := by
    rintro ⟨content, u, -, hfails⟩
    exact absurd hfails nofun
  obtain ⟨place, hp, hq⟩ : ∃ place,
    oneFile.lookup (oneFile.address ['.'] "a.py".toList) = .ok place ∧
      oneFile.lookup (oneFile.address ['.'] "/../p/./../p//a.py".toList) = .ok place :=
    ⟨_, rfl, rfl⟩
  have hlead : leadingSlashes (oneFile.address ['.'] "a.py".toList) =
      leadingSlashes (oneFile.address ['.'] "/../p/./../p//a.py".toList) := by decide
  obtain ⟨-, hbuilds⟩ := one_id_iff_same_slashes hp hq rfl
  obtain ⟨hsame, -, hnode⟩ := hbuilds hlead {} _ _ g (by simp) .alone hg
  rw [hid] at hnode
  obtain ⟨node, hmem, hlookup, -⟩ := hnode (by decide +kernel) hfacts
  have hfile : node.file ∈ g.nodes.map (·.file) := List.mem_map_of_mem hmem
  rw [hfiles, List.mem_singleton] at hfile
  exact ⟨place, g, hp, hq, hg, hsame, node, hmem, hlookup, hfile⟩

end ImpactGraph
