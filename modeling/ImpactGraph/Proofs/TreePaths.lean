import ImpactGraph.FileTree
import ImpactGraph.Proofs.AssignedFields
import ImpactGraph.Proofs.CanonicalPath

/-!
# Going down a file tree by names

A path is looked up component by component, and components may be empty, stay
or go back. The components of an id are names, and a name only ever goes down;
so below an id a lookup is nothing but `at?`, which takes one entry after
another and needs no trail. This is where paths turn into lists of names, and
what walks a tree can be compared with what reads it.
-/

namespace ImpactGraph

open ImpactGraph.Path

/-! ## Trees -/

namespace FileTree

/-- What lies at the end of a way down, entry by entry. -/
def at? (tree : FileTree) : List Text → Option FileTree
  | [] => some tree
  | name :: names => (tree.entries.lookup name).bind (·.at? names)

/-- A name that an entry can have. -/
structure IsEntryName (name : Text) : Prop extends IsName name where
  no_null : Char.ofNat 0 ∉ name

instance (name : Text) : Decidable (IsEntryName name) :=
  decidable_of_iff (IsName name ∧ Char.ofNat 0 ∉ name) ⟨fun ⟨a, b⟩ => ⟨a, b⟩,
    fun ⟨a, b⟩ => ⟨a, b⟩⟩

/-- A tree as a file system holds it: in each directory every name can be one, and none
occurs twice. -/
inductive IsProper : FileTree → Prop
  | file (bytes : List UInt8) : (file bytes).IsProper
  | closed : closed.IsProper
  | special (served : Option (List UInt8)) : (special served).IsProper
  | directory {entries : List (Text × FileTree)} (hkeys : (entries.map (·.1)).Nodup)
      (hnames : ∀ e ∈ entries, IsEntryName e.1) (hsub : ∀ e ∈ entries, e.2.IsProper) :
      (directory entries).IsProper

theorem IsProper.nodup_keys {tree : FileTree} (h : tree.IsProper) :
    (tree.entries.map (·.1)).Nodup := by
  cases h with
  | file bytes => exact .nil
  | closed => exact .nil
  | special served => exact .nil
  | directory hkeys hnames hsub => exact hkeys

theorem IsProper.mem_entries_iff {tree next : FileTree} {name : Text}
    (h : tree.IsProper) :
    (name, next) ∈ tree.entries ↔ tree.entries.lookup name = some next := by
  refine ⟨lookup_of_mem h.nodup_keys, fun hnext => ?_⟩
  obtain ⟨before, after, hentries, -⟩ := List.lookup_eq_some_iff.1 hnext
  exact hentries ▸ List.mem_append_right before List.mem_cons_self

theorem isDirectory_of_lookup {tree next : FileTree} {name : Text}
    (h : tree.entries.lookup name = some next) : tree.isDirectory = true := by
  cases tree with
  | file bytes => exact absurd h nofun
  | closed => exact absurd h nofun
  | special served => exact absurd h nofun
  | directory entries => rfl

theorem IsProper.of_lookup {tree next : FileTree} {name : Text} (h : tree.IsProper)
    (hnext : tree.entries.lookup name = some next) :
    IsEntryName name ∧ next.IsProper := by
  have hmem := h.mem_entries_iff.2 hnext
  cases h with
  | file bytes => exact absurd hmem List.not_mem_nil
  | closed => exact absurd hmem List.not_mem_nil
  | special served => exact absurd hmem List.not_mem_nil
  | directory hkeys hnames hsub => exact ⟨hnames _ hmem, hsub _ hmem⟩

end FileTree

/-! ## Steps of a lookup -/

namespace Place

theorem enter_nil (place : Place) :
    place.enter [] = if place.here.isDirectory then .ok place else
      .error .notDirectory := by
  unfold enter
  cases place.here.isDirectory <;> rfl

end Place

namespace Path

/-! ## Names put below an id -/

theorem joinAll_spell {lead : Text} {front names : List Text} (hl : IsLead lead)
    (hf : ∀ name ∈ front, IsName name) (hn : ∀ name ∈ names, IsName name) :
    joinAll (spell lead front) names = spell lead (front ++ names) := by
  induction names generalizing front with
  | nil => rw [List.append_nil]; rfl
  | cons name names ih =>
      obtain ⟨hname, hnames⟩ := List.forall_mem_cons.1 hn
      have hjoin : join (spell lead front) name = spell lead (front ++ [name]) := by
        rw [join_spell hl hf (isAbsolute_of_no_slash hname.no_slash), spell_concat]
      have hfront : ∀ n ∈ front ++ [name], IsName n :=
        List.forall_mem_append.2 ⟨hf, List.forall_mem_singleton.2 hname⟩
      show joinAll (join (spell lead front) name) names = _
      rw [hjoin, ih hfront hnames, List.append_assoc, List.singleton_append]

theorem joinAll_append (base : Text) (front back : List Text) :
    joinAll base (front ++ back) = joinAll (joinAll base front) back := List.foldl_append

theorem IsId.joinAll {base : Text} {names : List Text} (h : IsId base)
    (hn : ∀ name ∈ names, IsName name) : IsId (Path.joinAll base names) := by
  obtain ⟨lead, front, hl, hf, rfl⟩ := h
  rw [joinAll_spell hl hf hn]
  exact ⟨lead, front ++ names, hl, List.forall_mem_append.2 ⟨hf, hn⟩, rfl⟩

/-- The names below an id can be read off the path. -/
theorem joinAll_inj {base : Text} {as bs : List Text} (h : IsId base)
    (ha : ∀ name ∈ as, IsName name) (hb : ∀ name ∈ bs, IsName name)
    (heq : joinAll base as = joinAll base bs) : as = bs := by
  obtain ⟨lead, front, hl, hf, rfl⟩ := h
  rw [joinAll_spell hl hf ha, joinAll_spell hl hf hb] at heq
  have hcomponents := congrArg components heq
  rw [components_spell hl (List.forall_mem_append.2 ⟨hf, ha⟩),
    components_spell hl (List.forall_mem_append.2 ⟨hf, hb⟩)] at hcomponents
  exact List.append_cancel_left hcomponents

theorem prefix_joinAll {base : Text} {names : List Text}
    (hn : ∀ name ∈ names, IsName name) :
    base <+: joinAll base names := by
  induction names generalizing base with
  | nil => exact List.prefix_rfl
  | cons name names ih =>
      obtain ⟨hname, hnames⟩ := List.forall_mem_cons.1 hn
      have hjoin : base <+: join base name := by
        rw [join, if_neg (by simp [isAbsolute_of_no_slash hname.no_slash])]
        split <;> exact List.prefix_append _ _
      exact hjoin.trans (ih hnames)

theorem baseName_joinAll {base last : Text} {names : List Text} (hbase : IsId base)
    (hn : ∀ name ∈ names ++ [last], IsName name) :
    baseName (joinAll base (names ++ [last])) = last := by
  obtain ⟨lead, front, hl, hf, rfl⟩ := hbase
  have hlast : IsName last := hn last (List.mem_append_right _ List.mem_cons_self)
  rw [joinAll_spell hl hf hn, ← List.append_assoc,
    baseName_spell_concat hl hlast.no_slash]

theorem parent_joinAll {base last : Text} {names : List Text} (h : IsId base)
    (hn : ∀ name ∈ names ++ [last], IsName name) :
    parent (joinAll base (names ++ [last])) = joinAll base names := by
  obtain ⟨hnames, hlast⟩ := List.forall_mem_append.1 hn
  have hlast := List.forall_mem_singleton.1 hlast
  obtain ⟨lead, front, hl, hf, rfl⟩ := h
  rw [joinAll_spell hl hf hn, joinAll_spell hl hf hnames, ← List.append_assoc,
    parent_spell_concat hl (List.forall_mem_append.2 ⟨hf, hnames⟩) hlast.no_slash]

theorem isAbsolute_append {path : Text} (hne : path ≠ []) (ending : Text) :
    isAbsolute (path ++ ending) = isAbsolute path := by
  obtain ⟨c, path, rfl⟩ := List.exists_cons_of_ne_nil hne
  rfl

theorem join_append {path : Text} (hne : path ≠ []) (base ending : Text) :
    join base path ++ ending = join base (path ++ ending) := by
  rw [join, join, isAbsolute_append hne]
  split
  · rfl
  · split <;> simp

end Path

/-! ## Lookups -/

namespace Workspace

variable {w : Workspace} {top : Text} {names : List Text}

/-- Between the slashes in front of an id there is nothing to enter. -/
theorem split_spell {lead : Text} (hl : IsLead lead) (names : List Text) :
    ∃ empty : List Text, empty ≠ [] ∧ (∀ piece ∈ empty, piece = []) ∧
      (spell lead names).split '/' = empty ++ (Text.join ['/'] names).split '/' := by
  rcases hl with rfl | rfl
  · exact ⟨[[]], by simp, by simp, rfl⟩
  · exact ⟨[[], []], by simp, by simp, rfl⟩

theorem foldlM_empty {place : Place} (hdir : place.here.isDirectory = true)
    {empty : List Text} (hempty : ∀ piece ∈ empty, piece = []) :
    empty.foldlM Place.enter place = .ok place := by
  induction empty with
  | nil => rfl
  | cons piece empty ih =>
      obtain ⟨rfl, hrest⟩ := List.forall_mem_cons.1 hempty
      rw [List.foldlM_cons, Place.enter_nil, if_pos hdir]
      exact ih hrest

theorem foldlM_names {place : Place} (hdir : place.here.isDirectory = true)
    (hn : ∀ name ∈ names, IsName name) :
    ((Text.join ['/'] names).split '/').foldlM Place.enter place =
      names.foldlM Place.enter place := by
  by_cases hnames : names = []
  · rw [hnames]
    exact foldlM_empty hdir (by simp [Text.join, Text.split])
  · rw [Text.split_join hnames fun name hmem => (hn name hmem).no_slash]

theorem lookup_spell {lead : Text} (hl : IsLead lead) (hn : ∀ name ∈ names, IsName name)
    (hnull : Char.ofNat 0 ∉ spell lead names) :
    w.lookup (spell lead names) =
      if w.tree.isDirectory then names.foldlM Place.enter ⟨[], w.tree⟩ else
        .error .notDirectory := by
  obtain ⟨empty, hne, hempty, hsplit⟩ := split_spell hl names
  have habs : Path.join w.cwd (spell lead names) = spell lead names := by
    rw [Path.join, if_pos]
    rcases hl with rfl | rfl <;> rfl
  have hpath : spell lead names ≠ [] := by rcases hl with rfl | rfl <;> simp [spell]
  rw [lookup, if_neg hnull, if_neg hpath, habs, hsplit, List.foldlM_append]
  cases hdir : w.tree.isDirectory with
  | true => rw [foldlM_empty hdir hempty, if_pos rfl, ← foldlM_names hdir hn]; rfl
  | false =>
      cases empty with
      | nil => exact absurd rfl hne
      | cons piece empty =>
          rw [List.forall_mem_cons.1 hempty |>.1, List.foldlM_cons, Place.enter_nil,
            if_neg (by simp [hdir]), if_neg Bool.false_ne_true]
          rfl

theorem notMem_null {path : Text} {place : Place} (h : w.lookup path = .ok place) :
    Char.ofNat 0 ∉ path := by
  intro hmem
  rw [lookup, if_pos hmem] at h
  exact absurd h nofun

end Workspace

end ImpactGraph
