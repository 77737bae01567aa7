import ImpactGraph.Proofs.ModuleLines
import ImpactGraph.Proofs.RelativeModules

/-!
# Places of packages

A package has its place below the root, in a directory for its language, and the place is
spelled by the components of its name. Putting the components together one by one and
normalising what comes out neither merges two packages nor splits one: joining keeps the
components that lead somewhere (`kept_join`), and a path that is read from an id is the id
followed by these (`normal_join_relative`). So a place and a list of components determine
each other (`joinAll_inj`).

A path inside the declared module goes below the root instead. Whether it is inside is
decided where a component ends, and by nothing that the rest of the path says; and since
both places spell the rest of the path, a path never has the same place inside and
outside.
-/

namespace ImpactGraph

namespace Path

open Text

variable {root location path : Text} {pieces : List Text}

theorem kept_append_sep (a b : Text) : kept (a ++ '/' :: b) = kept a ++ kept b := by
  rw [kept, split_append_sep, List.filter_append]
  rfl

theorem mem_kept_iff {name : Text} : name ∈ kept path ↔
    name ∈ path.split '/' ∧ name ≠ [] ∧ name ≠ ['.'] := by
  simp [kept]

theorem isName_of_mem_kept (h : ['.', '.'] ∉ path.split '/') :
    ∀ name ∈ kept path, IsName name := by
  intro name hmem
  obtain ⟨hsplit, hne, hdot⟩ := mem_kept_iff.1 hmem
  exact ⟨hne, hdot, fun he => h (he ▸ hsplit), notMem_of_mem_split hsplit⟩

/-- Joining keeps the components of both paths. -/
theorem kept_join {a b : Text} (hb : isAbsolute b = false) :
    kept (join a b) = kept a ++ kept b := by
  rw [join, if_neg (by simp [hb])]
  split
  · next h =>
      simp only [Bool.or_eq_true, decide_eq_true_eq] at h
      rcases h with rfl | hslash
      · rfl
      · obtain ⟨init, rfl⟩ := List.getLast?_eq_some_iff.1 hslash
        have hnil : kept [] = [] := rfl
        rw [List.append_assoc, List.singleton_append, kept_append_sep,
          kept_append_sep, hnil, List.append_nil]
  · exact kept_append_sep a b

theorem kept_of_no_slash (h : '/' ∉ path) : kept path = [path].filter fun c =>
    c ≠ [] && c ≠ ['.'] := by
  rw [kept, split_of_notMem h]

theorem kept_of_isName (h : IsName path) : kept path = [path] := by
  rw [kept_of_no_slash h.no_slash, List.filter_cons_of_pos (by simp [h.ne_nil, h.ne_dot]),
    List.filter_nil]

theorem kept_joinAll (a : Text) (h : ∀ piece ∈ pieces, '/' ∉ piece) :
    kept (joinAll a pieces) = kept a ++ pieces.filter fun c => c ≠ [] && c ≠ ['.'] := by
  induction pieces generalizing a with
  | nil => exact (List.append_nil _).symm
  | cons piece pieces ih =>
      obtain ⟨hpiece, hpieces⟩ := List.forall_mem_cons.1 h
      show kept (joinAll (join a piece) pieces) = _
      rw [ih _ hpieces, kept_join (isAbsolute_of_no_slash hpiece),
        kept_of_no_slash hpiece, List.append_assoc, ← List.filter_append,
        List.singleton_append]

theorem isAbsolute_joinAll {a : Text} (hne : a ≠ []) (h : ∀ piece ∈ pieces, '/' ∉ piece) :
    isAbsolute (joinAll a pieces) = isAbsolute a := by
  induction pieces generalizing a with
  | nil => rfl
  | cons piece pieces ih =>
      obtain ⟨hpiece, hpieces⟩ := List.forall_mem_cons.1 h
      obtain ⟨ending, hjoin⟩ : ∃ ending, join a piece = a ++ ending := by
        rw [join, if_neg (by simp [isAbsolute_of_no_slash hpiece])]
        split
        · exact ⟨_, rfl⟩
        · exact ⟨_, rfl⟩
      show isAbsolute (joinAll (join a piece) pieces) = _
      rw [hjoin, ih (by simp [hne]) hpieces, isAbsolute_append hne]

/-- A path without `..` that is read from an id is the id followed by the path's
components. -/
theorem normal_join_relative (hroot : IsId root) (hp : isAbsolute path = false)
    (hup : ['.', '.'] ∉ path.split '/') :
    normal (join root path) = joinAll root (kept path) := by
  obtain ⟨lead, names, hl, hn, rfl⟩ := hroot
  rw [normal_join_spell hl hn hp hup, joinAll_spell hl hn (isName_of_mem_kept hup)]

/-- The place of a package is the root followed by the directory and the package's
components. -/
theorem external_eq (hroot : IsId root) (hlocation : IsName location)
    (hup : ['.', '.'] ∉ path.split '/') (cwd : Text) :
    external cwd root location path = joinAll root (location :: kept path) := by
  have hslash : ∀ piece ∈ path.split '/', '/' ∉ piece :=
    fun _ hmem => notMem_of_mem_split hmem
  have hparts : kept (joinAll location (path.split '/')) = location :: kept path := by
    rw [kept_joinAll location hslash, kept_of_isName hlocation]
    rfl
  have habs : isAbsolute (joinAll location (path.split '/')) = false := by
    rw [isAbsolute_joinAll hlocation.ne_nil hslash,
      isAbsolute_of_no_slash hlocation.no_slash]
  have hdots : ['.', '.'] ∉ (joinAll location (path.split '/')).split '/' := by
    intro hmem
    have hkept := mem_kept_iff.2 ⟨hmem, by decide, by decide⟩
    rw [hparts] at hkept
    rcases List.mem_cons.1 hkept with he | hkept
    · exact hlocation.ne_dots he.symm
    · exact hup (mem_kept_iff.1 hkept).1
  rw [external, canonical_of_isId hroot, normal_join_relative hroot habs hdots, hparts]

theorem kept_dropWhile_slash (t : Text) : kept (t.dropWhile (· = '/')) = kept t := by
  induction t with
  | nil => rfl
  | cons c t ih =>
      by_cases hc : c = '/'
      · subst hc
        rw [List.dropWhile_cons_of_pos (by simp), ih]
        exact (kept_append_sep [] t).symm
      · rw [List.dropWhile_cons_of_neg (by simp [hc])]

theorem isAbsolute_dropWhile_slash (t : Text) :
    isAbsolute (t.dropWhile (· = '/')) = false := by
  unfold isAbsolute
  cases hd : (t.dropWhile (· = '/')).head? with
  | none => rfl
  | some c =>
      have hc : c ≠ '/' := of_decide_eq_false (Text.head_dropWhile (· = '/') t c hd)
      simp [hc]

end Path

/-! ## Imports -/

namespace Resolve

open ImpactGraph.Path Text

variable {w : Workspace} {root file path : Text} {declared : Option Text}

/-- The import of a package: it does not start with a dot and does not step up. -/
structure IsPackagePath (path : Text) : Prop where
  no_dot : path.head? ≠ some '.'
  no_up : ['.', '.'] ∉ path.split '/'

/-- A path inside a module: the module itself, or a path that goes on with a slash behind
it. -/
def IsInside (module path : Text) : Prop := path = module ∨ module ++ ['/'] <+: path

theorem isInside_iff_test {module : Text} :
    (path = module || startsWith path (module ++ ['/'])) = true ↔
      IsInside module path := by
  simp [IsInside, startsWith]

theorem isInside_iff {module : Text} : IsInside module path ↔
    ∃ rest, path = module ++ rest ∧ (rest = [] ∨ rest.head? = some '/') := by
  constructor
  · rintro (rfl | ⟨rest, rfl⟩)
    · exact ⟨[], (List.append_nil _).symm, .inl rfl⟩
    · exact ⟨'/' :: rest, List.append_assoc _ _ _, .inr rfl⟩
  · rintro ⟨rest, rfl, rfl | hslash⟩
    · exact .inl (List.append_nil _)
    · obtain ⟨rest, rfl⟩ := List.head?_eq_some_iff.1 hslash
      exact .inr ⟨rest, List.append_assoc _ _ _⟩

theorem javascript_eq (hroot : IsId root) (h : IsPackagePath path) :
    javascript w root file path = joinAll root (packagesDirectory :: kept path) := by
  rw [javascript, if_neg h.no_dot, external_eq hroot (by decide) h.no_up]

theorem go_eq (hroot : IsId root) (hdeclared : Declares w root declared)
    (h : IsPackagePath path) :
    go w root file path = .ok (goWithin w root declared path) := by
  have htop : w.canonical root ['.'] = root := by
    rw [Workspace.canonical, canonical_dot, hroot.absolute_eq]
  rw [go]
  simp only [htop]
  rw [if_neg h.no_dot, goModule_of_declares hdeclared]
  rfl

theorem goWithin_outside (hroot : IsId root) (h : IsPackagePath path)
    (hout : ∀ module, declared = some module → ¬ IsInside module path) :
    goWithin w root declared path = joinAll root (vendorDirectory :: kept path) := by
  have hplace := @external_eq _ vendorDirectory _ hroot (by decide) h.no_up w.cwd
  cases declared with
  | none => exact hplace
  | some module =>
      rw [goWithin]
      simp only []
      rw [if_neg fun htest => hout module rfl (isInside_iff_test.1 htest), hplace]

theorem goWithin_inside (hroot : IsId root) {module rest : Text}
    (h : IsPackagePath (module ++ rest)) (hrest : rest = [] ∨ rest.head? = some '/') :
    goWithin w root (some module) (module ++ rest) = joinAll root (kept rest) := by
  have hinside : IsInside module (module ++ rest) := isInside_iff.2 ⟨rest, rfl, hrest⟩
  have hup : ['.', '.'] ∉ split '/' (rest.dropWhile (· = '/')) := by
    intro hmem
    have hkept := mem_kept_iff.2 ⟨hmem, by decide, by decide⟩
    rw [kept_dropWhile_slash] at hkept
    rcases hrest with rfl | hslash
    · exact absurd hkept (by decide)
    · obtain ⟨rest, rfl⟩ := List.head?_eq_some_iff.1 hslash
      have hmore : ['.', '.'] ∈ kept (module ++ '/' :: rest) := by
        rw [kept_append_sep]
        exact List.mem_append_right _ hkept
      exact h.no_up (mem_kept_iff.1 hmore).1
  rw [goWithin]
  simp only []
  rw [if_pos (isInside_iff_test.2 hinside), List.drop_left, Workspace.canonical,
    canonical_of_isId hroot, ← kept_dropWhile_slash rest]
  split
  · next hnil =>
      rw [hnil]
      exact normal_join_dot hroot
  · exact normal_join_relative hroot (isAbsolute_dropWhile_slash rest) hup

/-- The places of packages are told apart by their components. -/
theorem joinAll_external_inj (hroot : IsId root) {location a b : Text}
    (hlocation : IsName location) (ha : IsPackagePath a) (hb : IsPackagePath b) :
    joinAll root (location :: kept a) = joinAll root (location :: kept b) ↔
      kept a = kept b := by
  have hnames {path : Text} (h : IsPackagePath path) : ∀ name ∈ location :: kept path,
      IsName name :=
    List.forall_mem_cons.2 ⟨hlocation, isName_of_mem_kept h.no_up⟩
  constructor
  · intro heq
    exact (List.cons.inj (joinAll_inj hroot (hnames ha) (hnames hb) heq)).2
  · intro heq
    rw [heq]

/-- A path has its place in the vendor directory just when it is not inside the declared
module. -/
theorem goWithin_eq_vendor_iff (hroot : IsId root) (h : IsPackagePath path) :
    goWithin w root declared path = joinAll root (vendorDirectory :: kept path) ↔
      ∀ module, declared = some module → ¬ IsInside module path := by
  refine ⟨?_, goWithin_outside hroot h⟩
  rintro heq module rfl hinside
  obtain ⟨rest, rfl, hrest⟩ := isInside_iff.1 hinside
  rw [goWithin_inside hroot h hrest] at heq
  -- Both places spell the rest, and the one in the vendor directory spells more.
  have hkept : kept (module ++ rest) = kept module ++ kept rest := by
    rcases hrest with rfl | hslash
    · exact (congrArg kept (List.append_nil _)).trans (List.append_nil _).symm
    · obtain ⟨rest, rfl⟩ := List.head?_eq_some_iff.1 hslash
      exact kept_append_sep module rest
  have hnames := isName_of_mem_kept h.no_up
  have hbelow : ∀ name ∈ kept rest, IsName name := by
    intro name hmem
    exact hnames name (hkept ▸ List.mem_append_right _ hmem)
  have hvendor : ∀ name ∈ vendorDirectory :: kept (module ++ rest), IsName name :=
    List.forall_mem_cons.2 ⟨by decide, hnames⟩
  have hlength := congrArg List.length (joinAll_inj hroot hbelow hvendor heq)
  rw [hkept, List.length_cons, List.length_append] at hlength
  omega

/-- The place of a package is the root, the directory of its language and the components
of its name, of which the empty ones and `.` do not count; so two packages of a language
share a place just when they have the same components. A path of Go is read below the root
instead just when it is the declared module or goes on with a slash behind it, and then it
keeps the components that follow. -/
theorem packages_placed_by_components (hroot : IsId root) :
    (∀ file path, IsPackagePath path →
      javascript w root file path = joinAll root (packagesDirectory :: kept path)) ∧
    (∀ file other a b, IsPackagePath a → IsPackagePath b →
      (javascript w root file a = javascript w root other b ↔ kept a = kept b)) ∧
    ((w.readText (join root "go.mod".toList) = .error .missing ∨
        ∃ content, w.readText (join root "go.mod".toList) = .ok content) →
      ∃ declared, Declares w root declared) ∧
    ∀ declared, Declares w root declared →
      (∀ file path, IsPackagePath path →
        (go w root file path = .ok (joinAll root (vendorDirectory :: kept path)) ↔
          ∀ module, declared = some module → ¬ IsInside module path) ∧
        ∀ module rest, declared = some module → path = module ++ rest →
          (rest = [] ∨ rest.head? = some '/') →
            go w root file path = .ok (joinAll root (kept rest))) ∧
      ∀ file other a b, IsPackagePath a → IsPackagePath b →
        (∀ module, declared = some module → ¬ IsInside module a ∧ ¬ IsInside module b) →
        (go w root file a = go w root other b ↔ kept a = kept b) := by
  refine ⟨fun file path => javascript_eq hroot, fun file other a b ha hb =>
    ?_, exists_declares, fun declared hdeclared =>
      ⟨fun file path h => ⟨?_, ?_⟩, fun file other a b ha hb hout => ?_⟩⟩
  · rw [javascript_eq hroot ha, javascript_eq hroot hb]
    exact joinAll_external_inj hroot (by decide) ha hb
  · rw [go_eq hroot hdeclared h, Except.ok.injEq]
    exact goWithin_eq_vendor_iff hroot h
  · rintro module rest rfl rfl hrest
    rw [go_eq hroot hdeclared h, goWithin_inside hroot h hrest]
  · rw [go_eq hroot hdeclared ha, go_eq hroot hdeclared hb, Except.ok.injEq,
      goWithin_outside hroot ha fun module he => (hout module he).1,
      goWithin_outside hroot hb fun module he => (hout module he).2]
    exact joinAll_external_inj hroot (by decide) ha hb

/-- A project with a module file. -/
def moduleProject : Workspace where
  cwd := "/".toList
  tree := .directory [("p".toList, .directory
    [("go.mod".toList, .file "// m\n\nmodule m.io/a\ngo 1.22\n".toUTF8.toList)])]

instance (path : Text) : Decidable (IsPackagePath path) :=
  decidable_of_iff (path.head? ≠ some '.' ∧ ['.', '.'] ∉ path.split '/')
    ⟨fun ⟨a, b⟩ => ⟨a, b⟩, fun ⟨a, b⟩ => ⟨a, b⟩⟩

theorem declares_moduleProject :
    Declares moduleProject "/p".toList (some "m.io/a".toList) := by
  have hread : moduleProject.readText (join "/p".toList "go.mod".toList) =
      .ok "// m\n\nmodule m.io/a\ngo 1.22\n".toList := by decide +kernel
  obtain ⟨declared, h⟩ := exists_declares (.inr ⟨_, hread⟩)
  have hmodule : goModule moduleProject "/p".toList = .ok (some "m.io/a".toList) := by
    decide +kernel
  rw [goModule_of_declares h, Except.ok.injEq] at hmodule
  exact hmodule ▸ h

theorem packages_placed_by_components_of_module :
    IsId "/p".toList ∧ Declares moduleProject "/p".toList (some "m.io/a".toList) ∧
      javascript moduleProject "/p".toList [] "@s//b/./c".toList =
        "/p/node_modules/@s/b/c".toList ∧
      go moduleProject "/p".toList [] "m.io/a//x/./y".toList = .ok "/p/x/y".toList ∧
      go moduleProject "/p".toList [] "m.io/ab".toList =
        .ok "/p/vendor/m.io/ab".toList := by
  have hroot : IsId "/p".toList := ⟨['/'], [['p']], .inl rfl, by decide, rfl⟩
  obtain ⟨hscript, -, -, hgo⟩ := @packages_placed_by_components moduleProject _ hroot
  obtain ⟨hplaces, -⟩ := hgo _ declares_moduleProject
  refine ⟨hroot, declares_moduleProject, ?_, ?_, ?_⟩
  · rw [hscript [] "@s//b/./c".toList (by decide)]
    decide
  · rw [(hplaces [] "m.io/a//x/./y".toList (by decide)).2 _ "//x/./y".toList rfl
      rfl (.inr rfl)]
    decide
  · rw [(hplaces [] "m.io/ab".toList (by decide)).1.2 ?_]
    · decide
    · rintro module ⟨⟩
      rw [← isInside_iff_test]
      decide

end Resolve

end ImpactGraph
