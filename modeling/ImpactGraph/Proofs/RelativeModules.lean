import Mathlib.Data.List.Basic
import ImpactGraph.Resolve.Python
import ImpactGraph.Proofs.NormalLookup

/-!
# A package named by dots and by its name

A relative module climbs from the directory of its file, and an absolute one
goes down from the root. The two never meet in the code: one takes parents of a
path, the other cuts a name at its dots. They meet here in one path, the root
followed by the packages that are left after climbing and by the pieces of the
rest. For climbing this is an induction on the number of levels, in which a
parent takes the last package away. For the absolute module it is the law that
joining is associative, since the root is put in front last.

What follows the packages is cut at dots in both spellings and may be any text
that does not start with one. So the law covers what a name is looked up by as
a submodule: the package, a dot where none ends it, and the name.
-/

namespace ImpactGraph

/-! ## Joining -/

namespace Path

variable {a b c base : Text} {pieces : List Text}

/-- What joining puts between a base and what is read from it. -/
def seam (base : Text) : Text :=
  if base = [] ∨ base.getLast? = some '/' then [] else ['/']

theorem join_of_isAbsolute (h : isAbsolute b = true) (a : Text) : join a b = b := if_pos h

theorem join_eq_append (h : isAbsolute b = false) (a : Text) :
    join a b = a ++ seam a ++ b := by
  rw [join, if_neg (by simp [h]), seam]
  by_cases ha : a = [] ∨ a.getLast? = some '/'
  · simp [ha]
  · simp [ha]

theorem seam_append (hne : b ≠ []) (a : Text) : seam (a ++ b) = seam b := by
  simp [seam, hne, List.getLast?_append_of_ne_nil a hne]

theorem join_assoc (a b c : Text) : join a (join b c) = join (join a b) c := by
  by_cases hc : isAbsolute c = true
  · rw [join_of_isAbsolute hc, join_of_isAbsolute hc, join_of_isAbsolute hc]
  have hc : isAbsolute c = false := Bool.eq_false_iff.2 hc
  rw [join_eq_append hc b, join_eq_append hc (join a b)]
  by_cases hb : isAbsolute b = true
  · have hne : b ≠ [] := by
      rintro rfl
      exact absurd hb (by decide)
    rw [join_of_isAbsolute hb, join_of_isAbsolute]
    rwa [List.append_assoc, isAbsolute_append hne]
  have hb : isAbsolute b = false := Bool.eq_false_iff.2 hb
  rw [join_eq_append hb a]
  by_cases hne : b = []
  · subst hne
    -- The slash that joining with nothing may add is the one that stands there in the
    -- end.
    have hseam : seam (a ++ seam a) = [] := by
      by_cases ha : a = [] ∨ a.getLast? = some '/'
      · simp [seam, ha]
      · simp [seam, ha]
    show join a c = _
    rw [join_eq_append hc, List.append_nil, hseam, List.append_nil]
  · rw [seam_append hne, join_eq_append]
    · simp only [List.append_assoc]
    · rwa [List.append_assoc, isAbsolute_append hne]

theorem join_joinAll (a b : Text) (pieces : List Text) :
    join a (joinAll b pieces) = joinAll (join a b) pieces := by
  induction pieces generalizing b with
  | nil => rfl
  | cons piece pieces ih =>
      show join a (joinAll (join b piece) pieces) = joinAll (join (join a b) piece) pieces
      rw [ih, join_assoc]

theorem join_nil (b : Text) : join [] b = b := by
  unfold join
  split <;> rfl

/-- Components may be put together before they are read from an id or be read from it one
by one. -/
theorem canonical_joinAll (h : IsId base) (hne : pieces ≠ []) (cwd : Text) :
    canonical cwd base (joinAll [] pieces) = normal (joinAll base pieces) := by
  obtain ⟨piece, pieces, rfl⟩ := List.exists_cons_of_ne_nil hne
  show canonical cwd base (joinAll (join [] piece) pieces) =
    normal (joinAll (join base piece) pieces)
  rw [canonical_of_isId h, join_joinAll, join_nil]

end Path

/-! ## Spellings of a package -/

namespace Resolve

open ImpactGraph.Path Text

variable {w : Workspace} {root file module rest name stem : Text}
  {packages : List Text} {n : Nat}

/-- The absolute name of what follows some packages; nothing more than the packages when
it is empty. -/
def dotted (packages : List Text) (rest : Text) : Text :=
  Text.join ['.'] (packages ++ if rest = [] then [] else [rest])

/-- Names of directories that are packages: a dot would end them. -/
def ArePackages (packages : List Text) : Prop :=
  ∀ name ∈ packages, IsName name ∧ '.' ∉ name

instance (packages : List Text) : Decidable (ArePackages packages) :=
  inferInstanceAs (Decidable (∀ name ∈ packages, IsName name ∧ '.' ∉ name))

theorem climb_joinAll (hroot : IsId root) (hn : ∀ name ∈ packages, IsName name)
    (hle : n ≤ packages.length) :
    climb (joinAll root packages) n =
      joinAll root (packages.take (packages.length - n)) := by
  induction n generalizing packages with
  | zero => rw [climb, Nat.sub_zero, List.take_length]
  | succ n ih =>
      obtain ⟨front, last, rfl⟩ := (List.eq_nil_or_concat packages).resolve_left
        (List.ne_nil_of_length_pos (by omega))
      rw [List.concat_eq_append] at hn hle ⊢
      rw [List.length_append, List.length_singleton] at hle ⊢
      rw [climb, parent_joinAll hroot hn, ih (List.forall_mem_append.1 hn).1 (by omega),
        List.take_append_of_le_length (by omega)]
      congr 2
      omega

theorem takeWhile_dots (n : Nat) (hrest : rest.head? ≠ some '.') :
    (List.replicate n '.' ++ rest).takeWhile (· = '.') = List.replicate n '.' := by
  have hdots : ∀ c ∈ List.replicate n '.', decide (c = '.') = true := by
    intro c hc
    rw [(List.mem_replicate.1 hc).2]
    rfl
  have hnone : rest.takeWhile (· = '.') = [] := by
    cases rest with
    | nil => rfl
    | cons c rest =>
        have hc : c ≠ '.' := fun he => hrest (by rw [he]; rfl)
        simp [hc]
  rw [List.takeWhile_append_of_pos hdots, hnone, List.append_nil]

/-- A module with dots in front is read from the package that the dots climb to. -/
theorem pythonBase_dots (hroot : IsId root)
    (hn : ∀ name ∈ packages ++ [stem], IsName name) (hpos : 1 ≤ n)
    (hle : n ≤ packages.length + 1) (hrest : rest.head? ≠ some '.') :
    pythonBase w root (joinAll root (packages ++ [stem])) (List.replicate n '.' ++ rest) =
      normal
        (joinAll root (packages.take (packages.length + 1 - n) ++ split '.' rest)) := by
  have hnames := (List.forall_mem_append.1 hn).1
  obtain ⟨n, rfl⟩ := Nat.exists_eq_add_of_le' hpos
  have hpackage : climb (parent (joinAll root (packages ++ [stem]))) (n + 1 - 1) =
      joinAll root (packages.take (packages.length + 1 - (n + 1))) := by
    rw [parent_joinAll hroot hn, Nat.add_sub_cancel,
      climb_joinAll hroot hnames (by omega)]
    congr 2
    omega
  have hid : IsId (joinAll root (packages.take (packages.length + 1 - (n + 1)))) :=
    hroot.joinAll fun name hmem => hnames name (List.mem_of_mem_take hmem)
  have hhead : (List.replicate (n + 1) '.' ++ rest).head? = some '.' := rfl
  rw [pythonBase, if_pos hhead, takeWhile_dots _ hrest, List.length_replicate]
  simp only [hpackage, List.drop_left' List.length_replicate]
  rw [Workspace.canonical, joinAll_append]
  by_cases hnil : rest = []
  · subst hnil
    rw [if_pos rfl, hid.canonical_eq]
    exact (normal_join_stay hid (.inl rfl)).symm
  · rw [if_neg hnil, canonical_of_isId hroot, join_joinAll,
      join_of_isAbsolute hid.isAbsolute]

/-- A module without dots in front is read from the root. -/
theorem pythonBase_of_head (hroot : IsId root) (hmodule : module.head? ≠ some '.') :
    pythonBase w root file module = normal (joinAll root (split '.' module)) := by
  rw [pythonBase, if_neg hmodule]
  exact canonical_joinAll hroot (split_ne_nil '.' module) w.cwd

/-! ## Absolute names -/

theorem split_join_dots (hp : ArePackages packages) (hne : packages ≠ []) :
    split '.' (Text.join ['.'] packages) = packages :=
  split_join hne fun name hmem => (hp name hmem).2

theorem dotted_of_ne_nil (hrest : rest ≠ []) : dotted packages rest =
    Text.join ['.'] (packages ++ [rest]) := by
  rw [dotted, if_neg hrest]

theorem dotted_nil (packages : List Text) :
    dotted packages [] = Text.join ['.'] packages := by
  rw [dotted, if_pos rfl, List.append_nil]

theorem dotted_ne_nil (packages : List Text) (hrest : rest ≠ []) :
    dotted packages rest ≠ [] := by
  rw [dotted_of_ne_nil hrest]
  by_cases hpackages : packages = []
  · subst hpackages
    exact hrest
  · rw [join_concat _ hpackages]
    simp

theorem split_dotted (hp : ArePackages packages) (hrest : rest ≠ []) :
    split '.' (dotted packages rest) = packages ++ split '.' rest := by
  rw [dotted_of_ne_nil hrest]
  by_cases hne : packages = []
  · subst hne
    rfl
  · rw [join_concat _ hne, List.append_assoc, List.singleton_append, split_append_sep,
      split_join_dots hp hne]

/-- Dots at the ends of a text leave empty pieces there. -/
theorem ends_of_split {t : Text} (h : [] ∉ split '.' t) :
    t.head? ≠ some '.' ∧ t.getLast? ≠ some '.' := by
  constructor
  · intro hhead
    obtain ⟨tail, rfl⟩ := List.head?_eq_some_iff.1 hhead
    rw [split, if_pos rfl] at h
    exact h List.mem_cons_self
  · intro hlast
    obtain ⟨front, rfl⟩ := List.getLast?_eq_some_iff.1 hlast
    rw [split_append_sep] at h
    exact h (List.mem_append_right _ (by simp [split]))

theorem ends_join_dots (hp : ArePackages packages) (hne : packages ≠ []) :
    (Text.join ['.'] packages).head? ≠ some '.' ∧ (Text.join ['.'] packages).getLast? ≠
      some '.' := by
  refine ends_of_split fun hmem => ?_
  rw [split_join_dots hp hne] at hmem
  exact (hp [] hmem).1.ne_nil rfl

theorem join_dots_ne_nil (hp : ArePackages packages) (hne : packages ≠ []) :
    Text.join ['.'] packages ≠ [] := by
  intro he
  have hsplit := split_join_dots hp hne
  rw [he] at hsplit
  exact (hp [] (hsplit ▸ List.mem_cons_self)).1.ne_nil rfl

theorem pythonBase_dotted (hroot : IsId root) (hp : ArePackages packages)
    (hrest : rest.head? ≠ some '.') (hne : dotted packages rest ≠ []) :
    pythonBase w root file (dotted packages rest) =
      normal (joinAll root (packages ++ split '.' rest)) := by
  by_cases hnil : rest = []
  · subst hnil
    have hpackages : packages ≠ [] := by
      rintro rfl
      exact hne rfl
    have hid : IsId (joinAll root packages) := hroot.joinAll fun name hmem =>
      (hp name hmem).1
    rw [dotted_nil, pythonBase_of_head hroot (ends_join_dots hp hpackages).1,
      split_join_dots hp hpackages, joinAll_append, hid.normal_eq]
    exact (normal_join_stay hid (.inl rfl)).symm
  · have hhead : (dotted packages rest).head? ≠ some '.' := by
      rw [dotted_of_ne_nil hnil]
      by_cases hpackages : packages = []
      · subst hpackages
        exact hrest
      · rw [join_concat _ hpackages, List.append_assoc,
          List.head?_append_of_ne_nil _ (join_dots_ne_nil hp hpackages)]
        exact (ends_join_dots hp hpackages).1
    rw [pythonBase_of_head hroot hhead, split_dotted hp hnil]

/-! ## Names in a package -/

/-- What a package and a name in it are looked up by. -/
def submoduleOf (package name : Text) : Text :=
  if package.getLast? = some '.' then package ++ name else package ++ '.' :: name

theorem pythonSubmodule?_eq (w : Workspace) (root file package name : Text) :
    pythonSubmodule? w root file package name =
      if w.isFile (python w root file (submoduleOf package name)) then
        some (python w root file (submoduleOf package name))
      else none := rfl

theorem submoduleOf_append (front : Text) (hrest : rest ≠ []) (name : Text) :
    submoduleOf (front ++ rest) name = front ++ submoduleOf rest name := by
  unfold submoduleOf
  rw [List.getLast?_append_of_ne_nil front hrest]
  split <;> rw [List.append_assoc]

theorem submoduleOf_ne_nil (hrest : rest ≠ []) (name : Text) :
    submoduleOf rest name ≠ [] := by
  unfold submoduleOf
  split <;> simp [hrest]

theorem head?_submoduleOf (hrest : rest ≠ []) (name : Text) :
    (submoduleOf rest name).head? = rest.head? := by
  unfold submoduleOf
  split <;> exact List.head?_append_of_ne_nil _ hrest

theorem submoduleOf_dotted (packages : List Text) (hrest : rest ≠ []) (name : Text) :
    submoduleOf (dotted packages rest) name =
      dotted packages (submoduleOf rest name) := by
  rw [dotted_of_ne_nil hrest, dotted_of_ne_nil (submoduleOf_ne_nil hrest name)]
  by_cases hpackages : packages = []
  · subst hpackages
    rfl
  · rw [join_concat _ hpackages, join_concat _ hpackages, submoduleOf_append _ hrest]

theorem submoduleOf_dots (hpos : 1 ≤ n) (name : Text) :
    submoduleOf (List.replicate n '.') name = List.replicate n '.' ++ name := by
  have hlast : (List.replicate n '.').getLast? = some '.' := by
    rw [List.getLast?_replicate, if_neg (by omega)]
  rw [submoduleOf, if_pos hlast]

/-- A package that is named by its directories alone gets a dot before the name. -/
theorem pythonBase_submoduleOf_packages (hroot : IsId root) (hp : ArePackages packages)
    (hpackages : packages ≠ []) (name : Text) :
    pythonBase w root file (submoduleOf (dotted packages []) name) =
      normal (joinAll root (packages ++ split '.' name)) := by
  obtain ⟨hhead, hlast⟩ := ends_join_dots hp hpackages
  have hmodule : (Text.join ['.'] packages ++ '.' :: name).head? ≠ some '.' := by
    rwa [List.head?_append_of_ne_nil _ (join_dots_ne_nil hp hpackages)]
  rw [dotted_nil, submoduleOf, if_neg hlast, pythonBase_of_head hroot hmodule,
    split_append_sep, split_join_dots hp hpackages]

theorem python_congr {other module' : Text}
    (h : pythonBase w root file module = pythonBase w root other module') :
    python w root file module = python w root other module' := by
  unfold python
  rw [h]

theorem pythonSubmodule?_congr {other package package' : Text}
    (h : pythonBase w root file (submoduleOf package name) =
      pythonBase w root other (submoduleOf package' name)) :
    pythonSubmodule? w root file package name =
      pythonSubmodule? w root other package' name := by
  rw [pythonSubmodule?_eq, pythonSubmodule?_eq, python_congr h]

/-- From a file in a package, so many dots and a rest name what the packages that are left
and the rest name from anywhere, be it a module or a package that a name is imported from.
What follows the dots in front, a rest or a name, adds none to them, and the absolute name
is not empty: a dot and a name alone would climb. -/
theorem relative_eq_absolute (hroot : IsId root) (hp : ArePackages packages)
    (hstem : '/' ∉ stem) (hpos : 1 ≤ n) (hle : n ≤ packages.length + 1)
    (hrest : rest.head? ≠ some '.')
    (hne : dotted (packages.take (packages.length + 1 - n)) rest ≠ []) (other : Text) :
    let file := joinAll root (packages ++ [stem ++ ".py".toList])
    let relative := List.replicate n '.' ++ rest
    let absolute := dotted (packages.take (packages.length + 1 - n)) rest
    python w root file relative = python w root other absolute ∧
      ∀ name : Text, (rest = [] → name.head? ≠ some '.') →
        pythonSubmodule? w root file relative name =
          pythonSubmodule? w root other absolute name := by
  intro file relative absolute
  have hnames : ∀ name ∈ packages ++ [stem ++ ".py".toList], IsName name := by
    refine List.forall_mem_append.2 ⟨fun name hmem => (hp name hmem).1,
      List.forall_mem_singleton.2 (.of_mem_ne_dot (c := 'p') (by simp) (by decide) ?_)⟩
    simpa using hstem
  have hkept : ArePackages (packages.take (packages.length + 1 - n)) :=
    fun name hmem => hp name (List.mem_of_mem_take hmem)
  have hdots {tail : Text} (htail : tail.head? ≠ some '.') :=
    pythonBase_dots (w := w) hroot hnames hpos hle htail
  refine ⟨python_congr ?_, fun name hname => pythonSubmodule?_congr ?_⟩
  · rw [hdots hrest, pythonBase_dotted hroot hkept hrest hne]
  by_cases hnil : rest = []
  · have hpackages : packages.take (packages.length + 1 - n) ≠ [] := by
      intro he
      rw [hnil, he] at hne
      exact hne rfl
    show pythonBase w root file (submoduleOf (List.replicate n '.' ++ rest) name) =
      pythonBase w root other (submoduleOf (dotted _ rest) name)
    rw [hnil, List.append_nil, submoduleOf_dots hpos, hdots (hname hnil),
      pythonBase_submoduleOf_packages hroot hkept hpackages]
  · have htail : (submoduleOf rest name).head? ≠ some '.' := by
      rwa [head?_submoduleOf hnil]
    rw [submoduleOf_append _ hnil, submoduleOf_dotted _ hnil, hdots htail,
      pythonBase_dotted hroot hkept htail
        (dotted_ne_nil _ (submoduleOf_ne_nil hnil name))]

/-- A package in a package, each with a module, and a module beside them. -/
def nestedPackages : Workspace where
  cwd := "/".toList
  tree := .directory [("p".toList, .directory
    [("top.py".toList, .file []),
     ("a".toList, .directory
       [("x.py".toList, .file []),
        ("b".toList,
          .directory [("c.py".toList, .file []), ("__init__.py".toList, .file [])])])])]

theorem relative_eq_absolute_of_nestedPackages :
    let root := "/p".toList
    let file := joinAll root ["a".toList, "b".toList, "c.py".toList]
    python nestedPackages root file "...top".toList =
      python nestedPackages root root "top".toList ∧
      python nestedPackages root root "top".toList = "/p/top.py".toList ∧
      python nestedPackages root file "..x".toList =
        python nestedPackages root root "a.x".toList ∧
      pythonSubmodule? nestedPackages root file "..".toList "b".toList =
        pythonSubmodule? nestedPackages root root "a".toList "b".toList ∧
      pythonSubmodule? nestedPackages root root "a".toList "b".toList =
        some "/p/a/b/__init__.py".toList := by
  have hroot : IsId "/p".toList := ⟨['/'], ["p".toList], .inl rfl, by decide, rfl⟩
  have hp : ArePackages ["a".toList, "b".toList] := by decide
  have hstem : '/' ∉ "c".toList := by decide
  -- Three dots climb to the root itself, two to the first package.
  obtain ⟨htop, -⟩ := relative_eq_absolute (w := nestedPackages) (n := 3) hroot hp hstem
    (by decide) (by decide) (by decide : "top".toList.head? ≠ some '.')
      (by decide) "/p".toList
  obtain ⟨hmodule, -⟩ :=
    relative_eq_absolute (w := nestedPackages) (n := 2) hroot hp hstem
    (by decide) (by decide) (by decide : ['x'].head? ≠ some '.') (by decide) "/p".toList
  obtain ⟨-, hname⟩ := relative_eq_absolute (w := nestedPackages) (n := 2) hroot hp hstem
    (by decide) (by decide) (by decide : ([] : Text).head? ≠ some '.')
      (by decide) "/p".toList
  exact ⟨htop, by decide, hmodule, hname ['b'] (fun _ => by decide), by decide⟩

end Resolve

end ImpactGraph
