import Mathlib.Data.List.Induction
import ImpactGraph.Proofs.CanonicalTargets
import ImpactGraph.Proofs.NormalLookup

/-!
# Files of the modules that a path names

A use path is probed below a directory, its longest beginning first. So a path
in two parts is probed as its second part below the directory of the first, and
then as the first part alone (`rustProbe_append`). Every agreement between two
spellings of a path comes from this equation: spellings that reach one directory
by different ways differ in how much of the path is left to be probed there.

The other half is where the children of a module are. A module is declared in
`name.rs` or in `name/mod.rs`, and either way its children are in `name`
(`rustChildren_of_mem_rustCandidates`); so the directory of a module does not
depend on which of the two files there is, nor on whether there is one.
-/

namespace ImpactGraph

namespace Resolve

open ImpactGraph.Path Text

variable {w : Workspace} {root base file found name : Text} {path front : List Text}

/-! ## Paths as texts -/

/-- Segments with double colons between them. -/
def usePath (path : List Text) : Text := Text.join "::".toList path

theorem segments_usePath (h : ∀ name ∈ path, name ≠ [] ∧ ':' ∉ name) :
    segments (usePath path) = path := by
  by_cases hne : path = []
  · subst hne
    decide +kernel
  · show (splitAtText (':' :: [':']) (Text.join (':' :: [':']) path)).filter _ = path
    rw [splitAtText_join hne fun name hmem => (h name hmem).2]
    exact List.filter_eq_self.2 fun name hmem => by simpa using (h name hmem).1

/-- A segment of a path that names a module or an item. -/
structure IsSegment (name : Text) : Prop extends IsName name where
  no_colon : ':' ∉ name

instance (name : Text) : Decidable (IsSegment name) :=
  decidable_of_iff (IsName name ∧ ':' ∉ name) ⟨fun ⟨a, b⟩ => ⟨a, b⟩, fun ⟨a, b⟩ => ⟨a, b⟩⟩

/-- A name that a module can be declared by. Of the words of the language only those count
that a path or a file name gives a meaning of its own. -/
structure IsModuleName (name : Text) : Prop where
  ne_nil : name ≠ []
  no_slash : '/' ∉ name
  no_dot : '.' ∉ name
  no_colon : ':' ∉ name
  ordinary : name ∉ ["crate", "self", "super", "mod", "lib", "main"].map String.toList

instance (name : Text) : Decidable (IsModuleName name) :=
  decidable_of_iff (name ≠ [] ∧ '/' ∉ name ∧ '.' ∉ name ∧ ':' ∉ name ∧
      name ∉ ["crate", "self", "super", "mod", "lib", "main"].map String.toList)
    ⟨fun ⟨a, b, c, d, e⟩ => ⟨a, b, c, d, e⟩, fun ⟨a, b, c, d, e⟩ => ⟨a, b, c, d, e⟩⟩

theorem IsModuleName.isSegment (h : IsModuleName name) : IsSegment name := by
  obtain ⟨c, hc⟩ := List.exists_mem_of_ne_nil name h.ne_nil
  have hdot : c ≠ '.' := fun he => h.no_dot (he ▸ hc)
  exact ⟨.of_mem_ne_dot hc hdot h.no_slash, h.no_colon⟩

/-! ## Probing -/

/-- Some beginning of a path has a file below a directory. -/
def LeadsToFile (w : Workspace) (base : Text) (path : List Text) : Prop :=
  ∃ front, front ≠ [] ∧ front <+: path ∧
    ∃ file ∈ rustCandidates (joinAll base front), w.isFile file = true

theorem longestFirst_append (front back : List Text) :
    longestFirst (front ++ back) = (longestFirst back).map (front ++ ·) ++
      longestFirst front := by
  have hback (n : Nat) : (front ++ back).take (front.length + n + 1) =
      front ++ back.take (n + 1) := by
    rw [Nat.add_assoc, List.take_length_add_append]
  have hfront :
      (List.range front.length).reverse.map (fun n => (front ++ back).take (n + 1)) =
        longestFirst front := by
    refine List.map_congr_left fun n hn => List.take_append_of_le_length ?_
    have := List.mem_range.1 (List.mem_reverse.1 hn)
    omega
  unfold longestFirst at hfront ⊢
  rw [List.length_append, List.range_add, List.reverse_append, List.map_append, hfront,
    ← List.map_reverse, List.map_map, List.map_map]
  congr 1
  exact List.map_congr_left fun n _ => hback n

theorem mem_longestFirst : front ∈ longestFirst path ↔ front ≠ [] ∧ front <+: path := by
  simp only [longestFirst, List.mem_map, List.mem_reverse, List.mem_range]
  constructor
  · rintro ⟨n, hn, rfl⟩
    refine ⟨?_, List.take_prefix _ _⟩
    rw [ne_eq, List.take_eq_nil_iff]
    have hpath : path ≠ [] := List.ne_nil_of_length_pos (by omega)
    simp [hpath]
  · rintro ⟨hne, hfront⟩
    have hpos := List.length_pos_iff.2 hne
    have hle := hfront.length_le
    refine ⟨front.length - 1, by omega, ?_⟩
    rw [Nat.sub_add_cancel hpos]
    exact (List.prefix_iff_eq_take.1 hfront).symm

/-- A path in two parts: the second is probed first, below the directory of the first. -/
theorem rustProbe_append (w : Workspace) (base : Text) (front back : List Text) :
    rustProbe w base (front ++ back) =
      (rustProbe w (joinAll base front) back).or (rustProbe w base front) := by
  have hback : (fun path => rustCandidates (joinAll base (front ++ path))) =
      fun path => rustCandidates (joinAll (joinAll base front) path) := by
    funext path
    rw [joinAll_append]
  simp only [rustProbe, longestFirst_append, List.flatMap_append, List.flatMap_map, hback,
    List.find?_append]

theorem rustProbe_singleton (w : Workspace) (base name : Text) :
    rustProbe w base [name] = (rustCandidates (join base name)).find? w.isFile := by
  show ((rustCandidates (join base name)) ++ []).find? w.isFile = _
  rw [List.append_nil]

theorem isSome_rustProbe : (rustProbe w base path).isSome = true ↔
    LeadsToFile w base path := by
  simp only [rustProbe, List.find?_isSome, List.mem_flatMap,
    mem_longestFirst, LeadsToFile]
  constructor
  · rintro ⟨file, ⟨front, ⟨hne, hfront⟩, hmem⟩, hfile⟩
    exact ⟨front, hne, hfront, file, hmem, hfile⟩
  · rintro ⟨front, hne, hfront, file, hmem, hfile⟩
    exact ⟨file, ⟨front, ⟨hne, hfront⟩, hmem⟩, hfile⟩

theorem rustProbe_eq_none_iff : rustProbe w base path = none ↔
    ¬ LeadsToFile w base path := by
  rw [← isSome_rustProbe, Bool.not_eq_true, Option.isSome_eq_false_iff,
    Option.isNone_iff_eq_none]

theorem isFile_of_rustProbe (h : rustProbe w base path = some found) :
    w.isFile found = true :=
  List.find?_some h

theorem isId_of_rustProbe (hbase : IsId base) (hpath : ∀ name ∈ path, IsName name)
    (h : rustProbe w base path = some found) : IsId found := by
  obtain ⟨front, hfront, hmem⟩ := List.mem_flatMap.1 (List.mem_of_find?_eq_some h)
  have hnames : ∀ name ∈ front, IsName name :=
    fun name hname => hpath name ((mem_longestFirst.1 hfront).2.subset hname)
  exact isId_of_mem_rustCandidates (hbase.joinAll hnames) hmem

/-! ## Where the children of a module are -/

theorem splitName_append (h : IsModuleName name) (ending : Text)
    (hending : '.' ∉ ending) :
    splitName (name ++ ['.'] ++ ending) = (name, '.' :: ending) := by
  have hdot : ∀ c ∈ name, decide (c = '.') = false := fun c hc =>
    decide_eq_false fun he => h.no_dot (he ▸ hc)
  obtain ⟨c, rest, rfl⟩ := List.exists_cons_of_ne_nil h.ne_nil
  have hc : decide (c = '.') = false := hdot c List.mem_cons_self
  have htake : (c :: rest ++ ['.'] ++ ending).takeWhile (fun c => decide (c = '.')) =
      [] := by
    simp [hc]
  have hdrop : (c :: rest ++ ['.'] ++ ending).dropWhile (fun c => decide (c = '.')) =
      c :: rest ++ ['.'] ++ ending := by
    simp [hc]
  rw [splitName, htake, hdrop, cutLast_append hending]
  rfl

theorem append_rs_ordinary (h : IsModuleName name) :
    name ++ ".rs".toList ∉ ["lib.rs".toList, "main.rs".toList, "mod.rs".toList] := by
  have hno (word : Text) (hword :
      word ∈ ["crate", "self", "super", "mod", "lib", "main"].map
        String.toList) : name ++ ".rs".toList ≠ word ++ ".rs".toList := by
    intro he
    exact h.ordinary (List.append_cancel_right he ▸ hword)
  intro hmem
  simp only [List.mem_cons, List.not_mem_nil, or_false] at hmem
  rcases hmem with he | he | he
  · exact hno "lib".toList (by decide) he
  · exact hno "main".toList (by decide) he
  · exact hno "mod".toList (by decide) he

/-- Whichever of the two files a module is in, its children are in the directory of its
name. -/
theorem rustChildren_of_mem_rustCandidates (hbase : IsId base) (hname : IsModuleName name)
    (h : file ∈ rustCandidates (Path.join base name)) :
    rustChildren file = Path.join base name := by
  have hsegment : IsName name := hname.isSegment.toIsName
  have hfile {base last : Text} (hbase : IsId base) (hlast : IsName last) :
      Path.parent (Path.join base last) = base ∧
        Path.baseName (Path.join base last) = last :=
    ⟨@parent_joinAll base last [] hbase (List.forall_mem_singleton.2 hlast),
      @baseName_joinAll base last [] hbase (List.forall_mem_singleton.2 hlast)⟩
  unfold rustChildren
  rcases List.mem_cons.1 h with rfl | h
  · have hstem : stem (name ++ ".rs".toList) = name := by
      show (splitName (name ++ (['.'] ++ "rs".toList))).1 = name
      rw [← List.append_assoc, splitName_append hname _ (by decide)]
    obtain ⟨hparent, hlast⟩ :=
      hfile hbase (hsegment.append (by decide : '/' ∉ ".rs".toList))
    rw [join_append hname.ne_nil]
    simp only [hlast, hparent]
    rw [if_neg (append_rs_ordinary hname), hstem]
  · obtain ⟨hparent, hlast⟩ :=
      hfile (hbase.join hsegment) (by decide : IsName "mod.rs".toList)
    rw [List.mem_singleton.1 h]
    simp only [hlast, hparent]
    exact if_pos (by decide)

/-! ## Chains of declarations -/

/-- The file of the last of some modules, each declared in the file of the one before. -/
def moduleFile (w : Workspace) (file : Text) (path : List Text) : Text :=
  path.foldl (rustModule w) file

theorem moduleFile_concat (w : Workspace) (file : Text) (path : List Text) (name : Text) :
    moduleFile w file (path ++ [name]) = rustModule w (moduleFile w file path) name := by
  rw [moduleFile, List.foldl_append]
  rfl

theorem rustModule_mem_rustCandidates (w : Workspace) (file name : Text) :
    rustModule w file name ∈ rustCandidates (Path.join (rustChildren file) name) := by
  unfold rustModule
  cases hfind : (rustCandidates (Path.join (rustChildren file) name)).find? w.isFile with
  | none =>
      simp only [hfind]
      exact List.mem_cons_self
  | some found =>
      simp only [hfind]
      exact List.mem_of_find?_eq_some hfind

theorem find?_of_isFile_rustModule (h : w.isFile (rustModule w file name) = true) :
    (rustCandidates (Path.join (rustChildren file) name)).find? w.isFile =
      some (rustModule w file name) := by
  have hmem := rustModule_mem_rustCandidates w file name
  unfold rustModule at h hmem ⊢
  cases hfind : (rustCandidates (Path.join (rustChildren file) name)).find? w.isFile with
  | none =>
      simp only [hfind] at h hmem
      exact absurd h (List.find?_eq_none.1 hfind _ hmem)
  | some found => simp only [hfind]; rfl

/-- The induction is on the chain from its end, since a module is declared in the file
before it. -/
theorem rustChildren_moduleFile (hfile : IsId file)
    (hpath : ∀ name ∈ path, IsModuleName name) :
    rustChildren (moduleFile w file path) = joinAll (rustChildren file) path := by
  induction path using List.reverseRecOn with
  | nil => rfl
  | append_singleton path name ih =>
      obtain ⟨hpath, hname⟩ := List.forall_mem_append.1 hpath
      have hdirectory := ih hpath
      have hid : IsId (joinAll (rustChildren file) path) :=
        (isId_rustChildren hfile).joinAll fun name hmem =>
          (hpath name hmem).isSegment.toIsName
      have hmem := rustModule_mem_rustCandidates w (moduleFile w file path) name
      rw [hdirectory] at hmem
      rw [moduleFile_concat, joinAll_append,
        rustChildren_of_mem_rustCandidates hid (List.forall_mem_singleton.1 hname) hmem]
      rfl

theorem rustProbe_moduleFile (hfile : IsId file)
    (hpath : ∀ name ∈ path, IsModuleName name) (hne : path ≠ [])
    (hlast : w.isFile (moduleFile w file path) = true) :
    rustProbe w (rustChildren file) path = some (moduleFile w file path) := by
  obtain ⟨front, name, rfl⟩ := (List.eq_nil_or_concat path).resolve_left hne
  rw [List.concat_eq_append] at hpath hlast ⊢
  rw [moduleFile_concat] at hlast ⊢
  have hfind := find?_of_isFile_rustModule hlast
  rw [rustChildren_moduleFile hfile (List.forall_mem_append.1 hpath).1] at hfind
  rw [rustProbe_append, rustProbe_singleton, hfind, Option.some_or]

/-! ## Where paths start

A path is probed below a directory that its first segment chooses. What is found
there is an id already, so the root takes no part in it. -/

theorem climbSupers_of_head (h : path.head? ≠ some "super".toList) (directory : Text) :
    climbSupers directory path = (directory, path) := by
  cases path with
  | nil => rfl
  | cons segment rest => exact if_neg fun he => h (by rw [he]; rfl)

theorem rustBelow_of_rustProbe (hprobe : rustProbe w base path = some found)
    (hid : IsId found) : rustBelow w root base path = found := by
  cases path with
  | nil => exact absurd hprobe nofun
  | cons name path =>
      simp only [rustBelow, hprobe]
      exact hid.canonical_eq _ _

/-- Where a path starts that names its crate, its own module or a parent: the directory,
and the names behind the words that lead there. -/
def start? (w : Workspace) (top file : Text) : List Text → Option (Text × List Text)
  | [] => none
  | head :: rest =>
    if head = "crate".toList then some (crateSource w top (Path.parent file), rest)
    else if head = "self".toList then some (rustChildren file, rest)
    else if head = "super".toList then
      some (climbSupers (rustChildren file) (head :: rest))
    else none

theorem rust_of_start? {names : List Text} (hpath : ∀ name ∈ path, name ≠ [] ∧ ':' ∉ name)
    (h : start? w (w.canonical root ['.']) file path = some (base, names)) :
    rust w root file (usePath path) =
      rustBelow w (w.canonical root ['.']) base names := by
  rw [rust, segments_usePath hpath]
  cases path with
  | nil => cases h
  | cons head rest =>
      simp only [start?] at h
      simp only []
      split at h
      · next hcrate =>
          cases h
          rw [if_pos hcrate]
      · next hcrate =>
          rw [if_neg hcrate]
          split at h
          · next hself =>
              cases h
              rw [if_pos hself]
          · next hself =>
              rw [if_neg hself]
              split at h
              · next hsuper =>
                  rw [if_pos hsuper, Option.some.inj h]
              · cases h

section Starts

variable (hpath : ∀ name ∈ path, name ≠ [] ∧ ':' ∉ name)
include hpath

theorem rust_crate : rust w root file (usePath ("crate".toList :: path)) =
    rustBelow w (w.canonical root ['.'])
      (crateSource w (w.canonical root ['.']) (Path.parent file)) path :=
  rust_of_start? (List.forall_mem_cons.2 ⟨by decide, hpath⟩) rfl

theorem rust_self : rust w root file (usePath ("self".toList :: path)) =
    rustBelow w (w.canonical root ['.']) (rustChildren file) path :=
  rust_of_start? (List.forall_mem_cons.2 ⟨by decide, hpath⟩) rfl

theorem rust_super (hhead : path.head? ≠ some "super".toList) :
    rust w root file (usePath ("super".toList :: path)) =
      rustBelow w (w.canonical root ['.']) (Path.parent (rustChildren file)) path := by
  have hclimb : climbSupers (rustChildren file) ("super".toList :: path) =
      (Path.parent (rustChildren file), path) :=
    climbSupers_of_head hhead _
  exact rust_of_start? (List.forall_mem_cons.2 ⟨by decide, hpath⟩) (congrArg some hclimb)

/-- A path that starts with a module's name is probed as if it started with `self`. -/
theorem rust_of_rustProbe {first : Text} {rest : List Text} (he : path = first :: rest)
    (hfirst : IsModuleName first) (hcrate : first ∉ standardCrates)
    (hprobe : rustProbe w (rustChildren file) path = some found) (hid : IsId found) :
    rust w root file (usePath path) = found := by
  have hno (word : Text) (hword :
      word ∈ ["crate", "self", "super", "mod", "lib", "main"].map
        String.toList) : first ≠ word := fun he => hfirst.ordinary (he ▸ hword)
  rw [rust, segments_usePath hpath]
  subst he
  simp only []
  rw [if_neg (hno _ (by decide)), if_neg (hno _ (by decide)), if_neg (hno _ (by decide)),
    if_neg hcrate]
  simp only [hprobe]
  exact hid.canonical_eq _ _

end Starts

/-- Modules declared one in another are found by the path of their names, with `self` in
front or without, and so are the items of the last one. Of all the files only the last one
has to exist. -/
theorem rust_of_moduleFile {first : Text} {others : List Text} (hfile : IsId file)
    (hpath : ∀ name ∈ first :: others, IsModuleName name)
    (hlast : w.isFile (moduleFile w file (first :: others)) = true) (root : Text) :
    let path := first :: others
    let last := moduleFile w file path
    rust w root file (usePath ("self".toList :: path)) = last ∧
      (first ∉ standardCrates → rust w root file (usePath path) = last) ∧
      ∀ item : Text, item ≠ [] → ':' ∉ item →
        w.isFile (Path.join (rustChildren last) item ++ ".rs".toList) = false →
        w.isFile (Path.join (Path.join (rustChildren last) item) "mod.rs".toList) =
          false →
        rust w root file (usePath ("self".toList :: path ++ [item])) = last ∧
          (first ∉ standardCrates →
            rust w root file (usePath (path ++ [item])) = last) := by
  intro path last
  have hsegments : ∀ name ∈ path, name ≠ [] ∧ ':' ∉ name := fun name hmem =>
    ⟨(hpath name hmem).ne_nil, (hpath name hmem).isSegment.no_colon⟩
  have hprobe : rustProbe w (rustChildren file) path = some last :=
    rustProbe_moduleFile hfile hpath (List.cons_ne_nil _ _) hlast
  have hid : IsId last := isId_of_rustProbe (isId_rustChildren hfile)
    (fun name hmem => (hpath name hmem).isSegment.toIsName) hprobe
  have hfirst : IsModuleName first := hpath first List.mem_cons_self
  refine ⟨?_, fun hcrate => rust_of_rustProbe hsegments rfl hfirst hcrate hprobe hid,
    fun item hne hcolon hrs hmod => ?_⟩
  · rw [rust_self hsegments, rustBelow_of_rustProbe hprobe hid]
  have hnone : rustProbe w (joinAll (rustChildren file) path) [item] = none := by
    rw [rustProbe_singleton, ← rustChildren_moduleFile hfile hpath, List.find?_eq_none]
    intro candidate hmem
    rcases List.mem_cons.1 hmem with rfl | hmem
    · simpa using hrs
    · rw [List.mem_singleton.1 hmem]
      simpa using hmod
  have hitem : rustProbe w (rustChildren file) (path ++ [item]) = some last := by
    rw [rustProbe_append, hnone, hprobe, Option.none_or]
  have hlonger : ∀ name ∈ path ++ [item], name ≠ [] ∧ ':' ∉ name :=
    List.forall_mem_append.2 ⟨hsegments, List.forall_mem_singleton.2 ⟨hne, hcolon⟩⟩
  refine ⟨?_, fun hcrate => rust_of_rustProbe hlonger rfl hfirst hcrate hitem hid⟩
  rw [List.cons_append, rust_self hlonger, rustBelow_of_rustProbe hitem hid]

/-- A crate with files of both kinds: `a` is in a file beside its directory, `a::c`
inside. -/
def crateFiles : Workspace where
  cwd := "/".toList
  tree := .directory [("p".toList, .directory
    [("Cargo.toml".toList, .file []),
     ("src".toList, .directory
       [("lib.rs".toList, .file []), ("a.rs".toList, .file []),
        ("a".toList, .directory
          [("b.rs".toList, .file []),
           ("c".toList,
             .directory [("mod.rs".toList, .file []), ("d.rs".toList, .file [])])])])])]

theorem rust_of_moduleFile_crateFiles :
    let root := "/p".toList
    let file := "/p/src/lib.rs".toList
    let last := "/p/src/a/c/d.rs".toList
    moduleFile crateFiles file ["a".toList, "c".toList, "d".toList] = last ∧
      rust crateFiles root file "self::a::c::d".toList = last ∧
      rust crateFiles root file "a::c::d".toList = last ∧
      rust crateFiles root file "self::a::c::d::Item".toList = last ∧
      rust crateFiles root file "a::c::d::Item".toList = last := by
  have hfile : IsId "/p/src/lib.rs".toList :=
    ⟨['/'], ["p".toList, "src".toList, "lib.rs".toList], .inl rfl, by decide, rfl⟩
  have hpath : ∀ name ∈ ["a".toList, "c".toList, "d".toList],
      IsModuleName name := by decide
  have hchain : moduleFile crateFiles "/p/src/lib.rs".toList ["a".toList,
    "c".toList, "d".toList] =
      "/p/src/a/c/d.rs".toList := by decide
  have hstd : "a".toList ∉ standardCrates := by decide
  obtain ⟨hself, hbare, hitem⟩ :=
    rust_of_moduleFile hfile hpath (by rw [hchain]; decide) "/p".toList
  rw [hchain] at hself hbare hitem
  obtain ⟨hselfItem, hbareItem⟩ := hitem "Item".toList (by decide) (by decide) (by decide)
    (by decide)
  exact ⟨hchain, hself, hbare hstd, hselfItem, hbareItem hstd⟩

end Resolve

end ImpactGraph
