import Mathlib.Data.List.Infix
import ImpactGraph.Proofs.CratePaths

/-!
# Paths from a parent module and from the crate

A path from the parent of a module is probed in the parent's directory; the
same path from the crate is probed in the source directory, with the names of
the modules in front. As long as the probes of what both share find a file
they find the same one. After that the spellings part. From the crate the probe
goes on with the modules above, and an item of one of them is found in its
file. From the parent there is nothing left to probe, and the path is taken for
that of a module whose file is missing, although the item may well be in the
parent's own file, which is not in the parent's directory.

So the two agree exactly when the shared part finds a file, when there are no
modules above, or when none of them has a file and the fallback drops the same
last segment from both. `super::Item` in `a/b.rs` is the case that fails.
-/

namespace ImpactGraph

namespace Resolve

open ImpactGraph.Path Text

variable {w : Workspace} {root base last : Text} {dirs mods path rest : List Text}

/-! ## The crate of a directory -/

/-- The file that marks a crate. -/
def crateFile (directory : Text) : Text := Path.join directory "Cargo.toml".toList

/-- A root is a crate, and no directory on the way down from it is one. -/
structure IsCrateOf (w : Workspace) (root : Text) (dirs : List Text) : Prop where
  here : w.isFile (crateFile root) = true
  nearest : ∀ front, front ≠ [] → front <+: dirs →
    w.isFile (crateFile (joinAll root front)) = false

theorem IsCrateOf.of_beginning {front : List Text} (h : IsCrateOf w root dirs)
    (hfront : front <+: dirs) : IsCrateOf w root front :=
  ⟨h.here, fun init hne hinit => h.nearest init hne (hinit.trans hfront)⟩

theorem crateSource_joinAll (hroot : IsId root) (hdirs : ∀ name ∈ dirs, IsName name)
    (h : IsCrateOf w root dirs) :
    crateSource w root (joinAll root dirs) = Path.join root "src".toList := by
  induction dirs using List.reverseRecOn with
  | nil =>
      have hroot : startsWith (joinAll root []) root = true :=
        Text.startsWith_iff.2 List.prefix_rfl
      rw [crateSource, if_pos hroot]
      exact if_pos h.here
  | append_singleton dirs name ih =>
      have hbelow : startsWith (joinAll root (dirs ++ [name])) root = true :=
        Text.startsWith_iff.2 (prefix_joinAll hdirs)
      have hnone := h.nearest (dirs ++ [name]) (by simp) List.prefix_rfl
      have hup :=
        ih (List.forall_mem_append.1 hdirs).1 (h.of_beginning (List.prefix_append _ _))
      rw [crateSource, if_pos hbelow,
        if_neg (by rw [← crateFile, hnone]; exact Bool.false_ne_true),
        parent_joinAll hroot hdirs, hup]
      split <;> rfl

/-! ## Paths without a file -/

/-- The part of a path that is taken for a module when nothing is found. -/
def ownerPath (path : List Text) : List Text :=
  if 1 < path.length then path.dropLast else path

theorem ownerPath_beginning (path : List Text) : ownerPath path <+: path := by
  unfold ownerPath
  split
  · exact List.dropLast_prefix path
  · exact List.prefix_rfl

theorem length_ownerPath (path : List Text) :
    (ownerPath path).length = if 1 < path.length then path.length - 1 else
      path.length := by
  unfold ownerPath
  split
  · exact List.length_dropLast
  · rfl

theorem ownerPath_ne_nil (hne : path ≠ []) : ownerPath path ≠ [] := by
  have hpos := List.length_pos_iff.2 hne
  refine List.ne_nil_of_length_pos ?_
  rw [length_ownerPath]
  split <;> omega

theorem ownerPath_append (hlong : 1 < rest.length) :
    ownerPath (mods ++ rest) = mods ++ ownerPath rest := by
  have hne : rest ≠ [] := List.ne_nil_of_length_pos (by omega)
  rw [ownerPath, if_pos (by rw [List.length_append]; omega), ownerPath, if_pos hlong,
    List.dropLast_append_of_ne_nil hne]

theorem rustBelow_eq (hbase : IsId base) (hpath : ∀ name ∈ path, IsName name)
    (hne : path ≠ []) :
    rustBelow w root base path =
      (rustProbe w base path).getD (joinAll base (ownerPath path) ++ ".rs".toList) := by
  have howner : IsId (joinAll base (ownerPath path) ++ ".rs".toList) :=
    (hbase.joinAll fun name hmem =>
      hpath name ((ownerPath_beginning path).subset hmem)).append
      (by decide)
  cases hprobe : rustProbe w base path with
  | some found =>
      rw [rustBelow_of_rustProbe hprobe (isId_of_rustProbe hbase hpath hprobe)]; rfl
  | none =>
      obtain ⟨name, path, rfl⟩ := List.exists_cons_of_ne_nil hne
      simp only [rustBelow, hprobe]
      exact howner.canonical_eq _ _

/-- A file that a path falls back to is not there: it was probed. -/
theorem isFile_ownerPath (hne : path ≠ []) (hnone : ¬ LeadsToFile w base path) :
    w.isFile (joinAll base (ownerPath path) ++ ".rs".toList) = false := by
  refine Bool.eq_false_iff.2 fun hfile => hnone ?_
  exact ⟨ownerPath path, ownerPath_ne_nil hne, ownerPath_beginning path, _,
    List.mem_cons_self, hfile⟩

/-! ## The two spellings -/

/-- The path of a module of a crate without the ending of its file, and its directory. -/
def crateModule (root : Text) (mods : List Text) : Text :=
  joinAll root ("src".toList :: mods)

theorem isId_crateModule (hroot : IsId root) (hmods : ∀ name ∈ mods, IsName name) :
    IsId (crateModule root mods) :=
  hroot.joinAll (List.forall_mem_cons.2 ⟨by decide, hmods⟩)

theorem crateModule_concat (root : Text) (mods : List Text) (last : Text) :
    crateModule root (mods ++ [last]) = Path.join (crateModule root mods) last :=
  joinAll_append root ("src".toList :: mods) [last]

theorem rust_super_of_crateModule (hroot : IsId root) (hmods : ∀ name ∈ mods, IsName name)
    (hlast : IsModuleName last) (hrest : ∀ name ∈ rest, IsSegment name) (hne : rest ≠ [])
    (hhead : rest.head? ≠ some "super".toList) :
    rust w root (crateModule root (mods ++ [last]) ++ ".rs".toList)
        (usePath ("super".toList :: rest)) =
      (rustProbe w (crateModule root mods) rest).getD
        (joinAll (crateModule root mods) (ownerPath rest) ++ ".rs".toList) := by
  have hid : IsId (crateModule root mods) := isId_crateModule hroot hmods
  have hdirs : ∀ name ∈ "src".toList :: mods ++ [last], IsName name :=
    List.forall_mem_cons.2 ⟨by decide,
      List.forall_mem_append.2 ⟨hmods,
        List.forall_mem_singleton.2 hlast.isSegment.toIsName⟩⟩
  have hchildren : rustChildren (crateModule root (mods ++ [last]) ++ ".rs".toList) =
      crateModule root (mods ++ [last]) := by
    rw [crateModule_concat]
    exact rustChildren_of_mem_rustCandidates hid hlast List.mem_cons_self
  have hparent : Path.parent (crateModule root (mods ++ [last])) =
      crateModule root mods :=
    @parent_joinAll root last ("src".toList :: mods) hroot hdirs
  rw [rust_super (fun name hmem =>
    ⟨(hrest name hmem).ne_nil, (hrest name hmem).no_colon⟩) hhead,
    hchildren, hparent,
    rustBelow_eq hid (fun name hmem => (hrest name hmem).toIsName) hne]

theorem rust_crate_of_crateModule (hroot : IsId root)
    (hcrate : IsCrateOf w root ("src".toList :: mods)) (hlast : IsModuleName last)
    (hpath : ∀ name ∈ mods ++ rest, IsSegment name) (hne : rest ≠ []) :
    rust w root (crateModule root (mods ++ [last]) ++ ".rs".toList)
        (usePath ("crate".toList :: (mods ++ rest))) =
      (rustProbe w (crateModule root []) (mods ++ rest)).getD
        (joinAll (crateModule root []) (ownerPath (mods ++ rest)) ++ ".rs".toList) := by
  have hnames : ∀ name ∈ mods ++ rest, IsName name := fun name hmem =>
    (hpath name hmem).toIsName
  have hmods : ∀ name ∈ "src".toList :: mods, IsName name :=
    List.forall_mem_cons.2 ⟨by decide, (List.forall_mem_append.1 hnames).1⟩
  have htop : w.canonical root ['.'] = root :=
    (canonical_of_isId hroot _ _).trans (normal_join_dot hroot)
  have hfile : crateModule root (mods ++ [last]) ++ ".rs".toList =
      joinAll root (("src".toList :: mods) ++ [last ++ ".rs".toList]) := by
    rw [crateModule_concat, join_append hlast.ne_nil]
    exact (joinAll_append root ("src".toList :: mods) [last ++ ".rs".toList]).symm
  have hparent : Path.parent (crateModule root (mods ++ [last]) ++ ".rs".toList) =
      joinAll root ("src".toList :: mods) := by
    rw [hfile, parent_joinAll hroot]
    exact List.forall_mem_append.2
      ⟨hmods, List.forall_mem_singleton.2 (hlast.isSegment.toIsName.append (by decide))⟩
  rw [rust_crate fun name hmem =>
    ⟨(hpath name hmem).ne_nil, (hpath name hmem).no_colon⟩, htop,
    hparent, crateSource_joinAll hroot hmods hcrate]
  exact rustBelow_eq (hroot.join (by decide)) hnames (by simp [hne])

/-- The paths that the two spellings fall back to. -/
theorem fallbacks_agree_iff (hroot : IsId root)
    (hpath : ∀ name ∈ mods ++ rest, IsName name) (hne : rest ≠ []) :
    joinAll (crateModule root mods) (ownerPath rest) ++ ".rs".toList =
        joinAll (crateModule root []) (ownerPath (mods ++ rest)) ++ ".rs".toList ↔
      mods = [] ∨ 1 < rest.length := by
  have hsource : IsId (crateModule root []) :=
    isId_crateModule hroot (List.forall_mem_nil _)
  have hnames : ∀ name ∈ mods ++ ownerPath rest, IsName name := by
    refine List.forall_mem_append.2 ⟨(List.forall_mem_append.1 hpath).1,
      fun name hmem => ?_⟩
    exact hpath name (List.mem_append_right _ ((ownerPath_beginning rest).subset hmem))
  have howner : ∀ name ∈ ownerPath (mods ++ rest), IsName name :=
    fun name hmem => hpath name ((ownerPath_beginning _).subset hmem)
  have hjoin : joinAll (crateModule root mods) (ownerPath rest) =
      joinAll (crateModule root []) (mods ++ ownerPath rest) :=
        (joinAll_append _ _ _).symm
  rw [hjoin, List.append_cancel_right_eq]
  constructor
  · intro he
    have hlength := congrArg List.length (joinAll_inj hsource hnames howner he)
    have hpos := List.length_pos_iff.2 hne
    simp only [length_ownerPath, List.length_append] at hlength
    rw [← List.length_eq_zero_iff]
    split at hlength <;> split at hlength <;> omega
  · rintro (rfl | hlong)
    · rfl
    · rw [ownerPath_append hlong]

/-- In a file of a crate, a path from the parent module and the same path from the crate
agree just when the file is at the top of the crate, or a beginning of the path has a file
in the parent's directory, or the path has several segments and no module above the file
has one. -/
theorem super_eq_crate_iff (hroot : IsId root)
    (hcrate : IsCrateOf w root ("src".toList :: mods))
    (hmods : ∀ name ∈ mods, IsSegment name) (hlast : IsModuleName last)
    (hrest : ∀ name ∈ rest, IsSegment name) (hne : rest ≠ [])
    (hhead : rest.head? ≠ some "super".toList) :
    let file := crateModule root (mods ++ [last]) ++ ".rs".toList
    rust w root file (usePath ("super".toList :: rest)) =
        rust w root file (usePath ("crate".toList :: (mods ++ rest))) ↔
      mods = [] ∨ LeadsToFile w (crateModule root mods) rest ∨
        1 < rest.length ∧ ¬ LeadsToFile w (crateModule root []) mods := by
  intro file
  have hpath : ∀ name ∈ mods ++ rest, IsSegment name :=
    List.forall_mem_append.2 ⟨hmods, hrest⟩
  have hnames : ∀ name ∈ mods ++ rest, IsName name := fun name hmem =>
    (hpath name hmem).toIsName
  have hsuper :=
    rust_super_of_crateModule (w := w) hroot (List.forall_mem_append.1 hnames).1 hlast
    hrest hne hhead
  have habove := rust_crate_of_crateModule hroot hcrate hlast hpath hne
  have hmodule : joinAll (crateModule root []) mods = crateModule root mods := rfl
  rw [hsuper, habove, rustProbe_append, hmodule]
  cases hshared : rustProbe w (crateModule root mods) rest with
  | some found =>
      have hleads := isSome_rustProbe.1 (by rw [hshared]; rfl)
      exact iff_of_true rfl (.inr (.inl hleads))
  | none =>
      have hnone := rustProbe_eq_none_iff.1 hshared
      rw [Option.none_or, Option.getD_none]
      cases hmodules : rustProbe w (crateModule root []) mods with
      | some above =>
          -- The module above is there, and what the parent's path falls back to is not.
          have hleads := isSome_rustProbe.1 (by rw [hmodules]; rfl)
          refine iff_of_false (fun he => ?_) ?_
          · have hmissing := isFile_ownerPath hne hnone
            rw [he, Option.getD_some, isFile_of_rustProbe hmodules] at hmissing
            exact Bool.noConfusion hmissing
          · rintro (rfl | hshared | ⟨-, hmodules⟩)
            · exact absurd hmodules nofun
            · exact hnone hshared
            · exact hmodules hleads
      | none =>
          have hmodules := rustProbe_eq_none_iff.1 hmodules
          rw [Option.getD_none, fallbacks_agree_iff hroot hnames hne]
          exact or_congr_right ⟨fun hlong => .inr ⟨hlong, hmodules⟩,
            fun h => (h.resolve_left hnone).1⟩

theorem isCrateOf_crateFiles :
    IsCrateOf crateFiles "/p".toList ["src".toList, "a".toList] := by
  refine ⟨by decide, fun front hne hfront => ?_⟩
  have hinits : ∀ front ∈ ["src".toList, "a".toList].inits, front ≠ [] →
      crateFiles.isFile (crateFile (joinAll "/p".toList front)) = false := by decide
  exact hinits front ((List.mem_inits front _).2 hfront) hne

/-- An item of the module `a`, which is in `a.rs`, is looked for in `a/Item.rs` by a path
from the parent of `a::b`, and found by the same path from the crate. -/
theorem super_item_of_crateFiles :
    let file := "/p/src/a/b.rs".toList
    IsCrateOf crateFiles "/p".toList ["src".toList, "a".toList] ∧
      rust crateFiles "/p".toList file "super::Item".toList ≠
        rust crateFiles "/p".toList file "crate::a::Item".toList ∧
      rust crateFiles "/p".toList file "super::Item".toList = "/p/src/a/Item.rs".toList ∧
      crateFiles.isFile "/p/src/a/Item.rs".toList = false ∧
      rust crateFiles "/p".toList file "crate::a::Item".toList = "/p/src/a.rs".toList ∧
      crateFiles.isFile "/p/src/a.rs".toList = true := by
  intro file
  have hsuper : rust crateFiles "/p".toList file "super::Item".toList =
      "/p/src/a/Item.rs".toList := by decide +kernel
  have hcrate : rust crateFiles "/p".toList file "crate::a::Item".toList =
      "/p/src/a.rs".toList := by decide +kernel
  refine ⟨isCrateOf_crateFiles, ?_, hsuper, by decide, hcrate, by decide⟩
  rw [hsuper, hcrate]
  decide

theorem super_eq_crate_of_crateFiles :
    rust crateFiles "/p".toList "/p/src/a/b.rs".toList "super::c::Item".toList =
      rust crateFiles "/p".toList "/p/src/a/b.rs".toList "crate::a::c::Item".toList := by
  have hroot : IsId "/p".toList := ⟨['/'], ["p".toList], .inl rfl, by decide, rfl⟩
  have hmods : ∀ name ∈ ["a".toList], IsSegment name := by decide
  have hrest : ∀ name ∈ ["c".toList, "Item".toList], IsSegment name := by decide
  have hleads : LeadsToFile crateFiles (crateModule "/p".toList ["a".toList])
      ["c".toList, "Item".toList] :=
    ⟨["c".toList], by simp, List.prefix_append _ _, "/p/src/a/c/mod.rs".toList, by decide,
      by decide⟩
  exact (super_eq_crate_iff hroot isCrateOf_crateFiles hmods
    (by decide : IsModuleName "b".toList)
    hrest (by simp) (by decide)).2 (.inr (.inl hleads))

end Resolve

end ImpactGraph
