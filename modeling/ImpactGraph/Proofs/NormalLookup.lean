import ImpactGraph.Graph.Basic
import ImpactGraph.Proofs.TextParts
import ImpactGraph.Proofs.TreePaths

/-!
# A path and its normal form lead to the same place

Normalising looks at no file, and a lookup knows nothing of normal forms: it
goes into every component as it stands, and fails at a directory that is not
there even if the next component would leave it again. What ties the two is the
trail of a place. `..` takes one entry off the trail, exactly when normalising
takes one name back, and both stay at the top. So as long as a lookup succeeds,
the names on its trail are the components that normalising has kept so far.

A place that is met on the way can be reached by its names alone, because every
entry of a trail was once entered by its name (`Below`). Together: a path that
leads somewhere leads where its normal form leads. The converse does not hold.
-/

namespace ImpactGraph

open ImpactGraph.Path

/-! ## Places on a way down -/

namespace Place

/-- A place that is reached from the top of a tree by names alone. -/
inductive Below (tree : FileTree) : Place → Prop
  | top : Below tree ⟨[], tree⟩
  | down {place : Place} {name : Text} {next : FileTree} (h :
      Below tree place) (hname : IsName name)
      (hnext : place.here.entries.lookup name = some next) :
    Below tree ⟨(name, place.here) :: place.trail, next⟩

variable {tree next : FileTree} {place last : Place} {name component : Text}
  {pieces : List Text}

theorem enter_of_lookup (hname : IsName name)
    (hnext : place.here.entries.lookup name = some next) :
    place.enter name = .ok ⟨(name, place.here) :: place.trail, next⟩ := by
  rw [enter, if_neg (by simp [FileTree.isDirectory_of_lookup hnext]),
    if_neg (by simp [hname.ne_nil, hname.ne_dot]), if_neg hname.ne_dots, hnext]

theorem location_cons (name : Text) (dir here : FileTree)
    (trail : List (Text × FileTree)) :
    location ⟨(name, dir) :: trail, here⟩ = location ⟨trail, dir⟩ ++ [name] :=
  List.reverse_cons

theorem Below.isName (h : Below tree place) : ∀ name ∈ place.location, IsName name := by
  induction h with
  | top => exact fun _ hmem => absurd hmem List.not_mem_nil
  | down _ hname _ ih =>
      rw [location_cons]
      exact List.forall_mem_append.2 ⟨ih, List.forall_mem_singleton.2 hname⟩

theorem Below.foldlM_location (h : Below tree place) :
    place.location.foldlM enter ⟨[], tree⟩ = .ok place := by
  induction h with
  | top => rfl
  | @down place name next _ hname hnext ih =>
      have hplace : place.location.foldlM enter ⟨[], tree⟩ = .ok place := ih
      rw [location_cons, List.foldlM_append, hplace]
      exact (bind_pure _).trans (enter_of_lookup hname hnext)

/-- One step of a lookup does to the names on the trail what one step of normalising
does. -/
theorem Below.enter (h : Below tree place) (hslash : '/' ∉ component)
    (hlast : place.enter component = .ok last) :
    Below tree last ∧ last.trail.map (·.1) = step (place.trail.map (·.1)) component := by
  unfold Place.enter at hlast
  unfold step
  split at hlast
  · exact absurd hlast nofun
  split at hlast
  · next hstay =>
      rw [if_pos hstay, ← Except.ok.inj hlast]
      exact ⟨h, rfl⟩
  next hgoes =>
  rw [if_neg hgoes]
  split at hlast
  · next hup =>
      rw [if_pos hup]
      cases h with
      | top =>
          rw [← Except.ok.inj hlast]
          exact ⟨.top, rfl⟩
      | down hback hname hnext =>
          rw [← Except.ok.inj hlast]
          exact ⟨hback, rfl⟩
  next hup =>
  rw [if_neg hup]
  have hname : IsName component := by
    simp only [Bool.or_eq_true, decide_eq_true_eq, not_or] at hgoes
    exact ⟨hgoes.1, hgoes.2, hup, hslash⟩
  split at hlast
  · next found hfound =>
      rw [← Except.ok.inj hlast]
      exact ⟨.down h hname hfound, rfl⟩
  · exact absurd hlast nofun

/-- The induction is on the components that are left. -/
theorem Below.walk (h : Below tree place) (hslash : ∀ piece ∈ pieces, '/' ∉ piece)
    (hlast : pieces.foldlM Place.enter place = .ok last) :
    Below tree last ∧ last.trail.map (·.1) =
      pieces.foldl step (place.trail.map (·.1)) := by
  induction pieces generalizing place with
  | nil =>
      rw [← Except.ok.inj hlast]
      exact ⟨h, rfl⟩
  | cons piece pieces ih =>
      obtain ⟨hpiece, hpieces⟩ := List.forall_mem_cons.1 hslash
      rw [List.foldlM_cons] at hlast
      cases hmiddle : place.enter piece with
      | error cause =>
          rw [hmiddle] at hlast
          exact absurd hlast nofun
      | ok middle =>
          rw [hmiddle] at hlast
          obtain ⟨hbelow, htrail⟩ := h.enter hpiece hmiddle
          rw [List.foldl_cons, ← htrail]
          exact ih hbelow hpieces hlast

end Place

/-! ## Characters of a normal form -/

namespace Text

theorem mem_of_mem_split {sep c : Char} {t piece : Text} (hpiece : piece ∈ split sep t)
    (hc : c ∈ piece) : c ∈ t := by
  induction t generalizing piece with
  | nil =>
      rw [split, List.mem_singleton] at hpiece
      exact hpiece ▸ hc
  | cons d t ih =>
      rw [split] at hpiece
      split at hpiece
      · rcases List.mem_cons.1 hpiece with rfl | hpiece
        · exact absurd hc List.not_mem_nil
        · exact List.mem_cons_of_mem _ (ih hpiece hc)
      · split at hpiece
        · next hnil => exact absurd hnil (split_ne_nil sep t)
        · next first others hs =>
            rw [hs] at ih
            rcases List.mem_cons.1 hpiece with rfl | hpiece
            · rcases List.mem_cons.1 hc with rfl | hc
              · exact List.mem_cons_self
              · exact List.mem_cons_of_mem _ (ih List.mem_cons_self hc)
            · exact List.mem_cons_of_mem _ (ih (List.mem_cons_of_mem _ hpiece) hc)

end Text

namespace Path

variable {path : Text} {c : Char}

theorem mem_of_mem_step {deeper : List Text} {component name : Text}
    (h : name ∈ step deeper component) : name ∈ deeper ∨ name = component := by
  unfold step at h
  split at h
  · exact .inl h
  · split at h
    · exact .inl (List.mem_of_mem_tail h)
    · exact (List.mem_cons.1 h).symm

theorem mem_of_mem_foldl_step {pieces deeper : List Text} {name : Text}
    (h : name ∈ pieces.foldl step deeper) : name ∈ deeper ∨ name ∈ pieces := by
  induction pieces generalizing deeper with
  | nil => exact .inl h
  | cons piece pieces ih =>
      rcases ih h with h | h
      · rcases mem_of_mem_step h with h | rfl
        · exact .inl h
        · exact .inr List.mem_cons_self
      · exact .inr (List.mem_cons_of_mem _ h)

/-- Normalising brings in no character but slashes. -/
theorem mem_of_mem_normal (h : c ∈ normal path) : c = '/' ∨ c ∈ path := by
  have hlead : ∀ c ∈ leadingSlashes path, c = '/' ∨ c ∈ path := by
    intro c hc
    rcases isLead_leadingSlashes path with hl | hl
    · rw [hl] at hc
      exact .inl (by simpa using hc)
    · rw [hl] at hc
      exact .inl (by simpa using hc)
  have hnames : ∀ name ∈ components path, ∀ c ∈ name, c = '/' ∨ c ∈ path := by
    intro name hname c hc
    have hpiece :=
      (mem_of_mem_foldl_step (List.mem_reverse.1 hname)).resolve_left List.not_mem_nil
    exact .inr (Text.mem_of_mem_split hpiece hc)
  have hjoin : ∀ c ∈ Text.join ['/'] (components path), c = '/' ∨ c ∈ path :=
    Text.forall_mem_join (fun c hc => .inl (List.mem_singleton.1 hc)) hnames
  exact List.forall_mem_append.2 ⟨hlead, hjoin⟩ c h

theorem isAbsolute_join {base path : Text} (h : isAbsolute base = true) :
    isAbsolute (join base path) = true := by
  unfold join
  split
  · assumption
  · cases base with
    | nil => exact absurd h Bool.noConfusion
    | cons c base => split <;> exact h

end Path

/-! ## Lookups -/

namespace Workspace

variable {w : Workspace} {path : Text} {place : Place}

theorem foldlM_of_lookup (h : w.lookup path = .ok place) :
    ((Path.join w.cwd path).split '/').foldlM Place.enter ⟨[], w.tree⟩ = .ok place := by
  rw [lookup, if_neg (notMem_null h)] at h
  split at h
  · cases h
  · exact h

/-- A path leads to the place that its components name. -/
theorem location_of_lookup (h : w.lookup path = .ok place) :
    place.Below w.tree ∧ place.location = components (Path.join w.cwd path) := by
  obtain ⟨hbelow, htrail⟩ := Place.Below.top.walk (fun _ => Text.notMem_of_mem_split)
    (foldlM_of_lookup h)
  exact ⟨hbelow, congrArg List.reverse htrail⟩

theorem isDirectory_of_lookup (h : w.lookup path = .ok place) :
    w.tree.isDirectory = true := by
  have hwalk := foldlM_of_lookup h
  obtain ⟨piece, pieces, hsplit⟩ :=
    List.exists_cons_of_ne_nil (Text.split_ne_nil '/' (Path.join w.cwd path))
  rw [hsplit, List.foldlM_cons] at hwalk
  cases hdir : w.tree.isDirectory with
  | true => rfl
  | false =>
      have hfirst : Place.enter ⟨[], w.tree⟩ piece = .error .notDirectory := by
        rw [Place.enter, if_pos (by simp [hdir])]
      rw [hfirst] at hwalk
      exact absurd hwalk nofun

/-- A path from the top that leads somewhere leads where its normal form leads. -/
theorem lookup_normal (habs : isAbsolute path = true) (h : w.lookup path = .ok place) :
    w.lookup (normal path) = .ok place := by
  obtain ⟨hbelow, hlocation⟩ := location_of_lookup h
  rw [Path.join, if_pos habs] at hlocation
  have hnull : Char.ofNat 0 ∉ normal path := by
    intro hmem
    rcases mem_of_mem_normal hmem with he | hmem
    · exact absurd he (by decide)
    · exact notMem_null h hmem
  have hnames : ∀ name ∈ components path, IsName name := fun _ => isName_of_mem_components
  rw [normal, ← spell, lookup_spell (isLead_leadingSlashes path) hnames hnull,
    if_pos (isDirectory_of_lookup h), ← hlocation, hbelow.foldlM_location]

/-- The path from the top that is meant by a path read from a root. -/
def address (w : Workspace) (root path : Text) : Text :=
  Path.join (absolute w.cwd root) path

theorem isAbsolute_address (w : Workspace) (root path : Text) :
    isAbsolute (w.address root path) = true :=
  isAbsolute_join (isId_normal _).isAbsolute

theorem canonical_eq_normal_address (w : Workspace) (root path : Text) :
    w.canonical root path = normal (w.address root path) :=
  canonical_eq_normal_join _ _ _

theorem lookup_canonical {root : Text} (h : w.lookup (w.address root path) = .ok place) :
    w.lookup (w.canonical root path) = .ok place := by
  rw [canonical_eq_normal_address]
  exact lookup_normal (isAbsolute_address w root path) h

end Workspace

/-! ## Ids -/

namespace Path

/-- What an id consists of, read off its text: after the slashes in front come either
nothing or components between slashes. -/
theorem IsId.exists_components {path : Text} (h : IsId path) :
    ∃ lead rest, (lead = ['/'] ∨ lead = ['/', '/']) ∧ path = lead ++ rest ∧
      rest.head? ≠ some '/' ∧
      (rest = [] ∨ ∀ component ∈ rest.split '/',
        component ≠ [] ∧ component ≠ ['.'] ∧ component ≠ ['.', '.']) := by
  obtain ⟨lead, names, hl, hn, rfl⟩ := h
  refine ⟨lead, Text.join ['/'] names, hl, rfl, head?_join_names hn, ?_⟩
  by_cases hnames : names = []
  · subst hnames
    exact .inl rfl
  · refine .inr fun component hmem => ?_
    rw [Text.split_join hnames fun name hname => (hn name hname).no_slash] at hmem
    exact ⟨(hn component hmem).ne_nil, (hn component hmem).ne_dot,
      (hn component hmem).ne_dots⟩

/-- The working directory has no say in what is read from an id. -/
theorem canonical_of_isId {base : Text} (h : IsId base) (cwd path : Text) :
    canonical cwd base path = normal (join base path) := by
  rw [canonical_eq_normal_join, h.absolute_eq]

theorem canonical_root (cwd cwd' root path : Text) :
    canonical cwd' (canonical cwd root ['.']) path = canonical cwd root path := by
  rw [canonical_of_isId (isId_canonical _ _ _), canonical_dot, canonical_eq_normal_join]

end Path

/-- An id is one slash or two, and then names: no component is empty, `.` or `..`. It
names itself from everywhere. The id of a root stands for the root, wherever the program
runs by then, so a graph is asked about the ids that it was built with. And where a path
leads to something, its id leads to the same. -/
theorem canonical_fixed_and_found (w : Workspace) (root path : Text) :
    (∃ lead rest, (lead = ['/'] ∨ lead = ['/', '/']) ∧ w.canonical root path =
      lead ++ rest ∧
      rest.head? ≠ some '/' ∧
      (rest = [] ∨ ∀ component ∈ rest.split '/',
        component ≠ [] ∧ component ≠ ['.'] ∧ component ≠ ['.', '.'])) ∧
    (∀ cwd base, canonical cwd base (w.canonical root path) = w.canonical root path) ∧
    (∀ cwd, canonical cwd (w.canonical root ['.']) path = w.canonical root path) ∧
    (∀ g : Graph, g.root = w.canonical root ['.'] → g.canonical path =
      w.canonical root path) ∧
    ∀ place, w.lookup (Path.join (absolute w.cwd root) path) = .ok place →
      w.lookup (w.canonical root path) = .ok place := by
  have hid : IsId (w.canonical root path) := isId_canonical _ _ _
  have hbase : IsId (w.canonical root ['.']) := isId_canonical _ _ _
  have hroot (cwd : Text) : canonical cwd (w.canonical root ['.']) path =
      w.canonical root path :=
    canonical_root _ cwd _ _
  refine ⟨hid.exists_components, hid.canonical_eq, hroot, fun g hg =>
    ?_, fun place h => ?_⟩
  · rw [Graph.canonical, hg, ← canonical_of_isId hbase [], hroot]
  · exact Workspace.lookup_canonical h

/-- A directory with one file in it. -/
def oneFile : Workspace where
  cwd := "/p".toList
  tree := .directory [("p".toList, .directory [("a.py".toList, .file [])])]

theorem canonical_fixed_of_oneFile :
    ∃ g : Graph, ∃ place, g.root = oneFile.canonical "gone/..".toList ['.'] ∧
      oneFile.lookup (Path.join (absolute oneFile.cwd "gone/..".toList)
        "../.././/p/./a.py".toList) = .ok place ∧
      g.canonical "../.././/p/./a.py".toList = "/p/a.py".toList ∧
      oneFile.lookup "/p/a.py".toList = .ok place := by
  have hid : oneFile.canonical "gone/..".toList "../.././/p/./a.py".toList =
      "/p/a.py".toList := by
    decide
  obtain ⟨-, -, -, hgraph, hlookup⟩ :=
    canonical_fixed_and_found oneFile "gone/..".toList "../.././/p/./a.py".toList
  rw [hid] at hgraph hlookup
  have hgraph := hgraph { root := oneFile.canonical "gone/..".toList ['.'] } rfl
  exact ⟨_, _, rfl, rfl, hgraph, hlookup _ rfl⟩

end ImpactGraph
