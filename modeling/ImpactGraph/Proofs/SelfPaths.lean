import ImpactGraph.Proofs.ExternalPlaces
import ImpactGraph.Proofs.ParentPaths

/-!
# A path and the path of its `self`

In a group, `self` names what the group stands below. Resolved as a path of its own, with
`self` as one more name at the end, it is probed as such: first for a file of that name,
and then like the path without it (`rustProbe_append`). So the two lead apart in two ways.
There may be a file of that name, and where nothing is found the longer path falls back to
a file one level deeper, since the last name is taken for an item.

The files for a path and those for its `self` are told apart by how deep below the
directory they are and by their last names (`ne_of_mem_rustCandidates`), and this is all
that the converse needs.
-/

namespace ImpactGraph

namespace Resolve

open ImpactGraph.Path Text

variable {w : Workspace} {root top base file found head name : Text}
  {path names front rest : List Text}

/-! ## Where paths start -/

theorem IsSegment.written (h : IsSegment name) : name ≠ [] ∧ ':' ∉ name :=
  ⟨h.ne_nil, h.no_colon⟩

/-- A path that starts nowhere else is that of a module beside the file, or else of
another crate. -/
theorem rust_of_no_start (hfile : IsId file)
    (hpath : ∀ name ∈ head :: rest, IsSegment name)
    (h : start? w (w.canonical root ['.']) file (head :: rest) = none) :
    rust w root file (usePath (head :: rest)) =
      if head ∈ standardCrates then
        Path.external w.cwd (w.canonical root ['.']) vendorDirectory head
      else (rustProbe w (rustChildren file) (head :: rest)).getD
        (Path.external w.cwd (w.canonical root ['.']) vendorDirectory head) := by
  simp only [start?] at h
  split at h
  · cases h
  · next hcrate =>
      split at h
      · cases h
      · next hself =>
          split at h
          · cases h
          · next hsuper =>
              rw [rust, segments_usePath fun name hmem => (hpath name hmem).written]
              simp only []
              rw [if_neg hcrate, if_neg hself, if_neg hsuper]
              split
              · rfl
              · cases hprobe : rustProbe w (rustChildren file) (head :: rest) with
                | none => rfl
                | some found =>
                    have hid := isId_of_rustProbe (isId_rustChildren hfile)
                      (fun name hmem => (hpath name hmem).toIsName) hprobe
                    exact hid.canonical_eq _ _

theorem climbSupers_concat (directory : Text) (path : List Text)
    (hname : name ≠ "super".toList) :
    climbSupers directory (path ++ [name]) =
      ((climbSupers directory path).1, (climbSupers directory path).2 ++ [name]) := by
  induction path generalizing directory with
  | nil => exact if_neg hname
  | cons segment path ih =>
      rw [List.cons_append, climbSupers, climbSupers]
      split
      · exact ih _
      · rfl

/-- One more name at the end does not change where a path starts. -/
theorem start?_concat (hne : path ≠ []) (hname : name ≠ "super".toList) :
    start? w top file (path ++ [name]) =
      (start? w top file path).map fun start => (start.1, start.2 ++ [name]) := by
  obtain ⟨head, rest, rfl⟩ := List.exists_cons_of_ne_nil hne
  have hclimb := climbSupers_concat (rustChildren file) (head :: rest) hname
  rw [List.cons_append] at hclimb ⊢
  simp only [start?]
  split
  · rfl
  · split
    · rfl
    · split
      · rw [hclimb]
        rfl
      · rfl

theorem isId_crateSource (htop : IsId top) {directory : Text} (h : IsId directory) :
    IsId (crateSource w top directory) := by
  have hsource {directory : Text} (h : IsId directory) :
      IsId (Path.join directory "src".toList) :=
    h.join (by decide)
  induction directory using crateSource.induct w top with
  | case1 directory hbelow hcrate =>
      rw [crateSource, if_pos hbelow, if_pos hcrate]
      exact hsource h
  | case2 directory hbelow hcrate hlast =>
      rw [crateSource, if_pos hbelow, if_neg hcrate, dif_pos hlast]
      exact hsource htop
  | case3 directory hbelow hcrate hlast ih =>
      rw [crateSource, if_pos hbelow, if_neg hcrate, dif_neg hlast]
      exact ih h.parent
  | case4 directory hbelow =>
      rw [crateSource, if_neg hbelow]
      exact hsource htop

theorem of_climbSupers {directory : Text} (h : IsId directory) :
    IsId (climbSupers directory path).1 ∧ ∀ name ∈ (climbSupers directory path).2,
      name ∈ path := by
  induction path generalizing directory with
  | nil => exact ⟨h, fun _ hmem => hmem⟩
  | cons segment path ih =>
      rw [climbSupers]
      split
      · obtain ⟨hid, hmem⟩ := ih h.parent
        exact ⟨hid, fun name hname => List.mem_cons_of_mem _ (hmem name hname)⟩
      · exact ⟨h, fun _ hmem => hmem⟩

/-- A path starts at an id, and the names that are left are its own. -/
theorem of_start? (htop : IsId top) (hfile : IsId file)
    (h : start? w top file path = some (base, names)) :
    IsId base ∧ ∀ name ∈ names, name ∈ path := by
  cases path with
  | nil => cases h
  | cons head rest =>
      simp only [start?] at h
      split at h
      · cases h
        exact ⟨isId_crateSource htop hfile.parent, fun _ => List.mem_cons_of_mem _⟩
      · split at h
        · cases h
          exact ⟨isId_rustChildren hfile, fun _ => List.mem_cons_of_mem _⟩
        · split at h
          · have hclimb := @of_climbSupers (head :: rest) _ (isId_rustChildren hfile)
            rwa [Option.some.inj h] at hclimb
          · cases h

/-! ## The files of two levels -/

theorem rustCandidates_joinAll (hne : name ≠ []) (base : Text) (front : List Text) :
    rustCandidates (joinAll base (front ++ [name])) =
      [joinAll base (front ++ [name ++ ".rs".toList]),
        joinAll base (front ++ [name] ++ ["mod.rs".toList])] := by
  have hlast : joinAll base (front ++ [name]) ++ ".rs".toList =
      joinAll base (front ++ [name ++ ".rs".toList]) := by
    rw [joinAll_append, joinAll_append]
    exact Path.join_append hne _ _
  rw [rustCandidates, hlast, joinAll_append base (front ++ [name])]
  rfl

/-- A file that a path is probed for is as deep below the directory as the path, or one
level deeper and then named by its ending alone. -/
theorem exists_names_of_mem (hnames : ∀ other ∈ front, IsName other) (hname : IsName name)
    (h : file ∈ rustCandidates (joinAll base (front ++ [name]))) :
    ∃ above last, file = joinAll base (above ++ [last]) ∧
      (∀ other ∈ above ++ [last], IsName other) ∧
      (above = front ∧ last = name ++ ".rs".toList ∨ above = front ++ [name] ∧
        last = "mod.rs".toList) := by
  rw [rustCandidates_joinAll hname.ne_nil] at h
  rcases List.mem_cons.1 h with rfl | h
  · exact ⟨_, _, rfl, List.forall_mem_append.2
      ⟨hnames, List.forall_mem_singleton.2 (hname.append (by decide))⟩, .inl ⟨rfl, rfl⟩⟩
  · refine ⟨_, _, List.mem_singleton.1 h, ?_, .inr ⟨rfl, rfl⟩⟩
    exact List.forall_mem_append.2
      ⟨List.forall_mem_append.2 ⟨hnames, List.forall_mem_singleton.2 hname⟩,
      List.forall_mem_singleton.2 (by decide)⟩

/-- The files for a path and one more name are other files than those for a beginning of
the path. -/
theorem ne_of_mem_rustCandidates (hbase : IsId base)
    (hnames : ∀ other ∈ names, IsName other) (hname : IsName name)
    (hmod : name ≠ "mod".toList) (hfront : front <+: names) (hne : front ≠ [])
    (h : file ∈ rustCandidates (joinAll base (names ++ [name])))
    (hother : found ∈ rustCandidates (joinAll base front)) : file ≠ found := by
  obtain ⟨init, last, rfl⟩ := (List.eq_nil_or_concat front).resolve_left hne
  rw [List.concat_eq_append] at hfront hother
  have hinit : ∀ other ∈ init ++ [last], IsName other := fun other hmem =>
    hnames other (hfront.subset hmem)
  obtain ⟨hinit, hlast⟩ := List.forall_mem_append.1 hinit
  obtain ⟨above, ending, rfl, hids, hplace⟩ := exists_names_of_mem hnames hname h
  obtain ⟨above', ending', rfl, hids', hplace'⟩ :=
    exists_names_of_mem hinit (List.forall_mem_singleton.1 hlast) hother
  intro he
  obtain ⟨rfl, hending⟩ := List.append_inj' (joinAll_inj hbase hids hids' he) rfl
  have hlength := hfront.length_le
  rw [List.length_append, List.length_singleton] at hlength
  rcases hplace with ⟨rfl, rfl⟩ | ⟨rfl, -⟩
  · rcases hplace' with ⟨rfl, -⟩ | ⟨-, rfl⟩
    · omega
    · exact hmod (List.append_cancel_right (List.cons.inj hending).1 :
        name = "mod".toList)
  · rcases hplace' with ⟨rfl, -⟩ | ⟨habove, -⟩
    · rw [List.length_append, List.length_singleton] at hlength
      omega
    · have hsame := congrArg List.length habove
      rw [List.length_append, List.length_append, List.length_singleton,
        List.length_singleton] at hsame
      omega

/-! ## The path of `self` -/

/-- Where a path ends, there is a file for its `self`. -/
def HasSelfFile (w : Workspace) (base : Text) (path : List Text) : Prop :=
  LeadsToFile w (joinAll base path) ["self".toList]

theorem exists_of_hasSelfFile (h : HasSelfFile w base names) :
    ∃ file ∈ rustCandidates (joinAll base (names ++ ["self".toList])),
      w.isFile file = true ∧
      rustProbe w base (names ++ ["self".toList]) = some file := by
  obtain ⟨file, hfile⟩ := Option.isSome_iff_exists.1 (isSome_rustProbe.2 h)
  refine ⟨file, ?_, isFile_of_rustProbe hfile, by
    rw [rustProbe_append, hfile, Option.some_or]⟩
  rw [rustProbe_singleton] at hfile
  rw [joinAll_append]
  exact List.mem_of_find?_eq_some hfile

theorem rustProbe_self (h : ¬ HasSelfFile w base names) :
    rustProbe w base (names ++ ["self".toList]) = rustProbe w base names := by
  rw [rustProbe_append, rustProbe_eq_none_iff.2 h, Option.none_or]

theorem forall_mem_self (hnames : ∀ name ∈ names, IsName name) :
    ∀ name ∈ names ++ ["self".toList], IsName name :=
  List.forall_mem_append.2 ⟨hnames, List.forall_mem_singleton.2 (by decide)⟩

/-- A file for `self` is none that the path before it leads to. -/
theorem ne_of_rustProbe (hbase : IsId base) (hnames : ∀ name ∈ names, IsName name)
    (h : file ∈ rustCandidates (joinAll base (names ++ ["self".toList])))
    (hprobe : rustProbe w base names = some found) : file ≠ found := by
  obtain ⟨front, hfront, hfound⟩ := List.mem_flatMap.1 (List.mem_of_find?_eq_some hprobe)
  obtain ⟨hne, hfront⟩ := mem_longestFirst.1 hfront
  exact ne_of_mem_rustCandidates hbase hnames (by decide) (by decide) hfront hne h hfound

theorem rustBelow_ne_of_hasSelfFile (hbase : IsId base)
    (hnames : ∀ name ∈ names, IsName name) (hne : names ≠ [])
    (h : HasSelfFile w base names) :
    rustBelow w root base (names ++ ["self".toList]) ≠ rustBelow w root base names := by
  obtain ⟨file, hmem, hfile, hprobe⟩ := exists_of_hasSelfFile h
  rw [rustBelow_eq hbase (forall_mem_self hnames) (by simp),
    rustBelow_eq hbase hnames hne, hprobe, Option.getD_some]
  cases hother : rustProbe w base names with
  | some found => exact ne_of_rustProbe hbase hnames hmem hother
  | none =>
      intro he
      have hmissing := isFile_ownerPath hne (rustProbe_eq_none_iff.1 hother)
      rw [Option.getD_none] at he
      rw [← he, hfile] at hmissing
      exact Bool.noConfusion hmissing

theorem ownerPath_self (hne : names ≠ []) :
    ownerPath (names ++ ["self".toList]) = names := by
  have hpos := List.length_pos_iff.2 hne
  rw [ownerPath, if_pos, List.dropLast_concat]
  rw [List.length_append, List.length_singleton]
  omega

theorem eq_ownerPath_iff (hne : names ≠ []) : names = ownerPath names ↔
    names.length = 1 := by
  have hpos := List.length_pos_iff.2 hne
  constructor
  · intro he
    have hlength := length_ownerPath names
    rw [← he] at hlength
    split at hlength <;> omega
  · intro hone
    rw [ownerPath, if_neg (by omega)]

/-- Where no name is left, `self` is taken for a name below the directory. -/
theorem rustBelow_self_ne (hbase : IsId base) :
    rustBelow w root base ["self".toList] ≠ rustBelow w root base [] := by
  have hself : ∀ name ∈ ["self".toList], IsName name :=
    List.forall_mem_singleton.2 (by decide)
  have hmem : rustBelow w root base ["self".toList] ∈
      rustCandidates (joinAll base ["self".toList]) := by
    rw [rustBelow_eq hbase hself (List.cons_ne_nil _ _), rustProbe_singleton]
    cases hfind : (rustCandidates (Path.join base "self".toList)).find? w.isFile with
    | some file => exact List.mem_of_find?_eq_some hfind
    | none => exact List.mem_cons_self
  obtain ⟨above, last, hplace, hids, -⟩ :=
    @exists_names_of_mem base _ "self".toList [] (List.forall_mem_nil _) (by decide) hmem
  intro he
  have htop : joinAll base (above ++ [last]) = joinAll base [] :=
    hplace.symm.trans (he.trans (hbase.canonical_eq _ _))
  exact absurd (joinAll_inj hbase hids (List.forall_mem_nil _) htop) (by simp)

/-- A path and the path of its `self` have one target just when the path is not empty, no
file is there for `self`, and the path leads to a file, or has one name only, so that
neither loses a name that the other keeps. -/
theorem rustBelow_self_iff (hbase : IsId base) (hnames : ∀ name ∈ names, IsName name) :
    rustBelow w root base (names ++ ["self".toList]) = rustBelow w root base names ↔
      names ≠ [] ∧ ¬ HasSelfFile w base names ∧
        (names.length = 1 ∨ LeadsToFile w base names) := by
  by_cases hne : names = []
  · subst hne
    exact iff_of_false (rustBelow_self_ne hbase) fun h => h.1 rfl
  · by_cases hfile : HasSelfFile w base names
    · exact iff_of_false (rustBelow_ne_of_hasSelfFile hbase hnames hne hfile)
        fun h => h.2.1 hfile
    · rw [rustBelow_eq hbase (forall_mem_self hnames) (by simp),
        rustBelow_eq hbase hnames hne, rustProbe_self hfile, ownerPath_self hne]
      cases hprobe : rustProbe w base names with
      | some found =>
          have hleads := isSome_rustProbe.1 (by rw [hprobe]; rfl)
          exact iff_of_true rfl ⟨hne, hfile, .inr hleads⟩
      | none =>
          have howner : ∀ name ∈ ownerPath names, IsName name :=
            fun name hmem => hnames name ((ownerPath_beginning names).subset hmem)
          rw [Option.getD_none, Option.getD_none, List.append_cancel_right_eq]
          constructor
          · intro he
            exact ⟨hne, hfile,
              .inl ((eq_ownerPath_iff hne).1 (joinAll_inj hbase hnames howner he))⟩
          · rintro ⟨-, -, hone | hleads⟩
            · rw [← (eq_ownerPath_iff hne).2 hone]
            · exact absurd hleads (rustProbe_eq_none_iff.1 hprobe)

/-- What decides whether a path and the path of its `self` have one target. -/
def SharesTarget (w : Workspace) (top file : Text) (path : List Text) : Prop :=
  match start? w top file path with
  | some (base, names) =>
    names ≠ [] ∧ ¬ HasSelfFile w base names ∧
      (names.length = 1 ∨ LeadsToFile w base names)
  | none =>
    (∃ head ∈ path.head?, head ∈ standardCrates) ∨
      ¬ HasSelfFile w (rustChildren file) path

/-- A crate is named without an ending, so no file that is probed has its place. -/
theorem ne_external_of_mem (hbase : IsId base) (htop : IsId top)
    (hnames : ∀ name ∈ names, IsName name) (hhead : IsName head) (hdot : '.' ∉ head)
    (h : found ∈ rustCandidates (joinAll base (names ++ ["self".toList]))) :
    found ≠ Path.external w.cwd top vendorDirectory head := by
  have hup : ['.', '.'] ∉ head.split '/' := by
    rw [split_of_notMem hhead.no_slash, List.mem_singleton]
    exact fun he => hhead.ne_dots he.symm
  obtain ⟨above, last, rfl, hids, hplace⟩ := exists_names_of_mem hnames (by decide) h
  have hdotted : '.' ∈ last := by
    rcases hplace with ⟨-, rfl⟩ | ⟨-, rfl⟩ <;> decide
  have hexternal : ∀ name ∈ [vendorDirectory] ++ [head], IsName name := by
    simpa using ⟨(by decide : IsName vendorDirectory), hhead⟩
  rw [external_eq htop (by decide) hup, kept_of_isName hhead]
  intro he
  have hlast := congrArg baseName he
  rw [baseName_joinAll hbase hids] at hlast
  exact hdot ((hlast.trans (baseName_joinAll htop hexternal)) ▸ hdotted)

/-- A path that starts at no word of the language has one target with the path of its
`self` unless a file is there for `self`. -/
theorem rust_self_iff_of_no_start (hfile : IsId file)
    (hpath : ∀ name ∈ head :: rest, IsSegment name) (hdot : '.' ∉ head)
    (h : start? w (w.canonical root ['.']) file (head :: rest) = none) :
    rust w root file (usePath (head :: rest ++ ["self".toList])) =
        rust w root file (usePath (head :: rest)) ↔
      head ∈ standardCrates ∨ ¬ HasSelfFile w (rustChildren file) (head :: rest) := by
  have hself : ∀ name ∈ head :: (rest ++ ["self".toList]), IsSegment name :=
    List.forall_mem_append.2 ⟨hpath, List.forall_mem_singleton.2 (by decide)⟩
  have hstart :
      start? w (w.canonical root ['.']) file (head :: (rest ++ ["self".toList])) =
        none := by
    have hconcat :=
      @start?_concat w (w.canonical root ['.']) file "self".toList (head :: rest)
      (List.cons_ne_nil _ _) (by decide)
    rwa [h] at hconcat
  rw [List.cons_append, rust_of_no_start hfile hself hstart,
    rust_of_no_start hfile hpath h, ← List.cons_append]
  by_cases hstd : head ∈ standardCrates
  · rw [if_pos hstd, if_pos hstd]
    exact iff_of_true rfl (.inl hstd)
  · rw [if_neg hstd, if_neg hstd, or_iff_right hstd]
    have hchildren : IsId (rustChildren file) := isId_rustChildren hfile
    have hnames : ∀ name ∈ head :: rest, IsName name := fun name hmem =>
      (hpath name hmem).toIsName
    by_cases hleads : HasSelfFile w (rustChildren file) (head :: rest)
    · refine iff_of_false ?_ fun hno => hno hleads
      obtain ⟨found, hmem, -, hprobe⟩ := exists_of_hasSelfFile hleads
      rw [hprobe, Option.getD_some]
      cases hother : rustProbe w (rustChildren file) (head :: rest) with
      | some other => exact ne_of_rustProbe hchildren hnames hmem hother
      | none =>
          exact ne_external_of_mem hchildren (isId_canonical _ _ _) hnames
            (hnames head List.mem_cons_self)
            hdot hmem
    · rw [rustProbe_self hleads]
      exact iff_of_true rfl hleads

/-- Whether the path of `self` has the target of the path before it depends on files
alone: on one for `self`, and on one for the path. -/
theorem rust_self_iff (hfile : IsId file) (hne : path ≠ [])
    (hpath : ∀ name ∈ path, IsSegment name ∧ '.' ∉ name) :
    rust w root file (usePath (path ++ ["self".toList])) =
      rust w root file (usePath path) ↔
      SharesTarget w (w.canonical root ['.']) file path := by
  have hsegments : ∀ name ∈ path, IsSegment name := fun name hmem => (hpath name hmem).1
  cases hstart : start? w (w.canonical root ['.']) file path with
  | some start =>
      obtain ⟨base, names⟩ := start
      obtain ⟨hbase, hmem⟩ := of_start? (isId_canonical _ _ _) hfile hstart
      have hself : ∀ name ∈ path ++ ["self".toList], IsSegment name :=
        List.forall_mem_append.2 ⟨hsegments, List.forall_mem_singleton.2 (by decide)⟩
      have hconcat :=
        @start?_concat w (w.canonical root ['.']) file "self".toList path hne (by decide)
      rw [hstart] at hconcat
      rw [rust_of_start? (fun name hmem => (hself name hmem).written) hconcat,
        rust_of_start? (fun name hmem => (hsegments name hmem).written) hstart,
        SharesTarget, hstart]
      exact rustBelow_self_iff hbase fun name hname =>
        (hsegments name (hmem name hname)).toIsName
  | none =>
      obtain ⟨head, rest, rfl⟩ := List.exists_cons_of_ne_nil hne
      rw [rust_self_iff_of_no_start hfile hsegments (hpath head List.mem_cons_self).2
        hstart, SharesTarget, hstart]
      simp

end Resolve

end ImpactGraph
