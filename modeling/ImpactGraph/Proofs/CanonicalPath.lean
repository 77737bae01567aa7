import ImpactGraph.Path.Relative
import ImpactGraph.Text.Lemmas

/-!
# Ids are the fixed points of normalisation

An id is one or two slashes and then names with a slash between neighbours,
where a name is not empty, not `.`, not `..`, and holds no slash. `IsId` says
so without mentioning `normal`, and the two theorems around it tie it down:
every normal form is an id, and normalising an id changes nothing. So a path
is an id exactly when it names itself from every root.

The rest of the file is what resolvers do to ids after they normalised: they
put an ending on the last name, step down to a name, or cut the last name off.
Each of these gives an id again, and that is all the resolvers need.
-/

namespace ImpactGraph.Text

/-! ## Splitting and joining -/

theorem split_ne_nil (sep : Char) (t : Text) : split sep t ≠ [] := by
  cases t with
  | nil => simp [split]
  | cons c t =>
      rw [split]
      split
      · simp
      · split <;> simp

theorem notMem_of_mem_split {sep : Char} {t piece : Text} (h : piece ∈ split sep t) :
    sep ∉ piece := by
  induction t generalizing piece with
  | nil =>
      rw [split, List.mem_singleton] at h
      simp [h]
  | cons c t ih =>
      rw [split] at h
      split at h
      · rcases List.mem_cons.1 h with rfl | h
        · simp
        · exact ih h
      · next hc =>
          split at h
          · next hs => exact absurd hs (split_ne_nil sep t)
          · next first others hs =>
              rw [hs] at ih
              rcases List.mem_cons.1 h with rfl | h
              · rw [List.mem_cons, not_or]
                exact ⟨fun he => hc he.symm, ih List.mem_cons_self⟩
              · exact ih (List.mem_cons_of_mem _ h)

theorem split_append_sep (sep : Char) (a b : Text) :
    split sep (a ++ sep :: b) = split sep a ++ split sep b := by
  induction a with
  | nil => simp [split]
  | cons c a ih =>
      rw [List.cons_append, split, split, ih]
      split
      · rfl
      · cases hs : split sep a with
        | nil => exact absurd hs (split_ne_nil sep a)
        | cons first others => rfl

theorem split_of_notMem {sep : Char} {t : Text} (h : sep ∉ t) : split sep t = [t] := by
  induction t with
  | nil => rfl
  | cons c t ih =>
      rw [List.mem_cons, not_or] at h
      rw [split, if_neg (Ne.symm h.1), ih h.2]

theorem join_append (sep : Text) {front back : List Text} (hfront : front ≠ [])
    (hback : back ≠ []) :
    join sep (front ++ back) = join sep front ++ sep ++ join sep back := by
  induction front with
  | nil => exact absurd rfl hfront
  | cons piece front ih =>
      cases front with
      | nil =>
          obtain ⟨next, back, rfl⟩ := List.exists_cons_of_ne_nil hback
          rfl
      | cons next front =>
          have hrec := ih (by simp)
          simp only [List.cons_append, join] at hrec ⊢
          rw [hrec]
          simp only [List.append_assoc]

theorem join_concat (sep : Text) {pieces : List Text} (hne : pieces ≠ []) (last : Text) :
    join sep (pieces ++ [last]) = join sep pieces ++ sep ++ last :=
  join_append sep hne (List.cons_ne_nil last [])

theorem length_split (sep : Char) (t : Text) :
    (split sep t).length = t.count sep + 1 := by
  induction t with
  | nil => rfl
  | cons c t ih =>
      rw [split]
      by_cases hc : c = sep
      · rw [if_pos hc, List.length_cons, ih, hc, List.count_cons_self]
      · rw [if_neg hc, List.count_cons_of_ne hc, ← ih]
        cases hs : split sep t with
        | nil => exact absurd hs (split_ne_nil sep t)
        | cons first others => rfl

/-- The pieces of what was put together are those of the pieces. -/
theorem split_join_flatMap {sep : Char} {pieces : List Text} (hne : pieces ≠ []) :
    split sep (join [sep] pieces) = pieces.flatMap (split sep) := by
  induction pieces with
  | nil => exact absurd rfl hne
  | cons piece pieces ih =>
      cases pieces with
      | nil => exact (List.append_nil _).symm
      | cons next pieces =>
          have hjoin : join [sep] (piece :: next :: pieces) = piece ++ sep ::
              join [sep] (next :: pieces) :=
            List.append_assoc _ _ _
          rw [hjoin, split_append_sep, ih (List.cons_ne_nil _ _)]
          rfl

theorem split_join {sep : Char} {pieces : List Text} (hne : pieces ≠ [])
    (h : ∀ piece ∈ pieces, sep ∉ piece) : split sep (join [sep] pieces) = pieces := by
  have hpieces : pieces.map (split sep) = pieces.map fun piece => [piece] :=
    List.map_congr_left fun piece hpiece => split_of_notMem (h piece hpiece)
  rw [split_join_flatMap hne, List.flatMap_def, hpieces, ← List.flatMap_def,
    List.flatMap_singleton']

end ImpactGraph.Text

namespace ImpactGraph.Path

open Text (split split_append_sep split_of_notMem split_join notMem_of_mem_split)

/-! ## Names and ids -/

/-- A component that normalising keeps. -/
structure IsName (name : Text) : Prop where
  ne_nil : name ≠ []
  ne_dot : name ≠ ['.']
  ne_dots : name ≠ ['.', '.']
  no_slash : '/' ∉ name

instance (name : Text) : Decidable (IsName name) :=
  decidable_of_iff (name ≠ [] ∧ name ≠ ['.'] ∧ name ≠ ['.', '.'] ∧ '/' ∉ name)
    ⟨fun ⟨a, b, c, d⟩ => ⟨a, b, c, d⟩, fun ⟨a, b, c, d⟩ => ⟨a, b, c, d⟩⟩

/-- The slashes that an id may start with. -/
def IsLead (lead : Text) : Prop := lead = ['/'] ∨ lead = ['/', '/']

/-- Names after the slashes in front. -/
def spell (lead : Text) (names : List Text) : Text := lead ++ Text.join ['/'] names

/-- A path that is written the way ids are. -/
def IsId (path : Text) : Prop :=
  ∃ lead names, IsLead lead ∧ (∀ name ∈ names, IsName name) ∧ path = spell lead names

theorem isLead_leadingSlashes (path : Text) : IsLead (leadingSlashes path) := by
  unfold leadingSlashes
  split
  · exact Or.inr rfl
  · exact Or.inl rfl

theorem isName_of_mem_step {deeper : List Text} {component : Text}
    (hd : ∀ name ∈ deeper, IsName name) (hc : '/' ∉ component) :
    ∀ name ∈ step deeper component, IsName name := by
  unfold step
  split
  · exact hd
  · next hkeep =>
      simp only [Bool.or_eq_true, decide_eq_true_eq, not_or] at hkeep
      split
      · exact fun name hn => hd name (List.mem_of_mem_tail hn)
      · next hup =>
          intro name hn
          rcases List.mem_cons.1 hn with rfl | hn
          · exact ⟨hkeep.1, hkeep.2, hup, hc⟩
          · exact hd name hn

theorem isName_of_mem_foldl_step {pieces deeper : List Text}
    (hd : ∀ name ∈ deeper, IsName name) (hp : ∀ piece ∈ pieces, '/' ∉ piece) :
    ∀ name ∈ pieces.foldl step deeper, IsName name := by
  induction pieces generalizing deeper with
  | nil => exact hd
  | cons piece pieces ih =>
      exact ih (isName_of_mem_step hd (hp piece List.mem_cons_self))
        fun p h => hp p (List.mem_cons_of_mem _ h)

theorem isName_of_mem_components {path name : Text} (h : name ∈ components path) :
    IsName name :=
  isName_of_mem_foldl_step (fun _ hn => absurd hn List.not_mem_nil)
    (fun _ hp => notMem_of_mem_split hp) name (List.mem_reverse.1 h)

/-- Every normal form is an id. -/
theorem isId_normal (path : Text) : IsId (normal path) :=
  ⟨leadingSlashes path, components path, isLead_leadingSlashes path,
    fun _ h => isName_of_mem_components h, rfl⟩

theorem isId_canonical (cwd root path : Text) :
    IsId (canonical cwd root path) := isId_normal _

/-! ## Normalising an id changes nothing -/

theorem IsName.step {name : Text} (h : IsName name) (deeper : List Text) :
    Path.step deeper name = name :: deeper := by
  unfold Path.step
  rw [if_neg (by simp [h.ne_nil, h.ne_dot]), if_neg h.ne_dots]

theorem foldl_step_names {names : List Text} (h : ∀ name ∈ names, IsName name)
    (deeper : List Text) : names.foldl step deeper = names.reverse ++ deeper := by
  induction names generalizing deeper with
  | nil => rfl
  | cons name names ih =>
      rw [List.foldl_cons, (h name List.mem_cons_self).step,
        ih fun n hn => h n (List.mem_cons_of_mem _ hn)]
      simp

/-- What follows the slashes in front of an id does not start with one. -/
theorem head?_join_names {names : List Text} (h : ∀ name ∈ names, IsName name) :
    (Text.join ['/'] names).head? ≠ some '/' := by
  cases names with
  | nil => simp [Text.join]
  | cons name names =>
      have hn := h name List.mem_cons_self
      cases name with
      | nil => exact absurd rfl hn.ne_nil
      | cons c name =>
          have hc : c ≠ '/' := fun he => hn.no_slash (he ▸ List.mem_cons_self)
          cases names <;> simpa [Text.join] using hc

theorem takeWhile_spell {lead : Text} {names : List Text} (hl : IsLead lead)
    (h : ∀ name ∈ names, IsName name) :
    (spell lead names).takeWhile (· = '/') = lead := by
  have htail : (Text.join ['/'] names).takeWhile (· = '/') = [] := by
    cases hj : Text.join ['/'] names with
    | nil => rfl
    | cons c rest =>
        have hc : c ≠ '/' := fun he => head?_join_names h (by rw [hj, he]; rfl)
        simp [hc]
  rcases hl with rfl | rfl <;> simp [spell, htail]

theorem leadingSlashes_spell {lead : Text} {names : List Text} (hl : IsLead lead)
    (h : ∀ name ∈ names, IsName name) : leadingSlashes (spell lead names) = lead := by
  unfold leadingSlashes
  rw [takeWhile_spell hl h]
  rcases hl with rfl | rfl <;> rfl

theorem foldl_step_split_join {names : List Text} (h : ∀ name ∈ names, IsName name)
    (deeper : List Text) :
    (split '/' (Text.join ['/'] names)).foldl step deeper = names.reverse ++ deeper := by
  cases names with
  | nil => rfl
  | cons name names =>
      rw [split_join (by simp) fun n hn => (h n hn).no_slash, foldl_step_names h]

theorem components_spell {lead : Text} {names : List Text} (hl : IsLead lead)
    (h : ∀ name ∈ names, IsName name) : components (spell lead names) = names := by
  have hone (t : Text) : (split '/' ('/' :: t)).foldl step [] =
      (split '/' t).foldl step [] := by
    rw [split, if_pos rfl]
    rfl
  unfold components
  rcases hl with rfl | rfl
  · rw [spell, List.singleton_append, hone, foldl_step_split_join h]
    simp
  · rw [spell, List.cons_append, List.singleton_append, hone, hone,
      foldl_step_split_join h]
    simp

theorem normal_spell {lead : Text} {names : List Text} (hl : IsLead lead)
    (h : ∀ name ∈ names, IsName name) : normal (spell lead names) = spell lead names := by
  rw [normal, leadingSlashes_spell hl h, components_spell hl h]
  rfl

theorem IsId.normal_eq {path : Text} (h : IsId path) : normal path = path := by
  obtain ⟨lead, names, hl, hn, rfl⟩ := h
  exact normal_spell hl hn

theorem IsId.isAbsolute {path : Text} (h : IsId path) : isAbsolute path = true := by
  obtain ⟨lead, names, hl, -, rfl⟩ := h
  rcases hl with rfl | rfl <;> rfl

/-- An id names itself, whatever the root. -/
theorem IsId.canonical_eq {path : Text} (h : IsId path) (cwd root : Text) :
    canonical cwd root path = path := by
  rw [canonical, if_pos h.isAbsolute, h.normal_eq]

theorem IsId.absolute_eq {path : Text} (h : IsId path) (cwd : Text) :
    absolute cwd path = path := by
  rw [absolute, join, if_pos h.isAbsolute, h.normal_eq]

theorem isId_iff {path : Text} : IsId path ↔ ∀ cwd root, canonical cwd root path = path :=
  ⟨fun h cwd root => h.canonical_eq cwd root, fun h =>
    h [] [] ▸ isId_canonical [] [] path⟩

/-! ## Steps from an id to another -/

/-- What stands in front of a name that follows others. -/
def front (lead : Text) (names : List Text) : Text :=
  if names = [] then lead else spell lead names ++ ['/']

theorem spell_append (lead : Text) (names : List Text) {below : List Text}
    (hne : below ≠ []) :
    spell lead (names ++ below) = front lead names ++ Text.join ['/'] below := by
  unfold front
  split
  · next h => subst h; rfl
  · next h =>
      rw [spell, Text.join_append _ h hne, spell]
      simp only [List.append_assoc]

theorem spell_concat (lead : Text) (names : List Text) (last : Text) :
    spell lead (names ++ [last]) = front lead names ++ last :=
  spell_append lead names (List.cons_ne_nil last [])

theorem getLast?_front {lead : Text} (hl : IsLead lead) (names : List Text) :
    (front lead names).getLast? = some '/' := by
  unfold front
  split
  · rcases hl with rfl | rfl <;> rfl
  · simp

/-- An id with names does not end with a slash. -/
theorem getLast?_spell {lead : Text} {names : List Text} (hne : names ≠ [])
    (h : ∀ name ∈ names, IsName name) : (spell lead names).getLast? ≠ some '/' := by
  obtain ⟨init, last, rfl⟩ := List.eq_nil_or_concat names |>.resolve_left hne
  rw [List.concat_eq_append] at h ⊢
  have hlast := h last (by simp)
  rw [spell_concat, List.getLast?_append, List.getLast?_eq_some_getLast hlast.ne_nil,
    Option.some_or, ne_eq, Option.some.injEq]
  exact fun he => hlast.no_slash (he ▸ List.getLast_mem hlast.ne_nil)

theorem IsName.append {name suffix : Text} (h : IsName name) (hs : '/' ∉ suffix) :
    IsName (name ++ suffix) := by
  have h1 := h.ne_nil
  have h2 := h.ne_dot
  have h3 := h.ne_dots
  have h4 := h.no_slash
  rcases name with _ | ⟨c, _ | ⟨d, name⟩⟩
  · exact absurd rfl h1
  · refine ⟨by simp, fun he => ?_, fun he => ?_, by simpa [hs] using h4⟩
    · exact h2 (by rw [(List.cons.inj he).1])
    · exact h2 (by rw [(List.cons.inj he).1])
  · refine ⟨by simp, by simp, fun he => ?_, by simpa [hs] using h4⟩
    simp only [List.cons_append, List.cons.injEq, List.append_eq_nil_iff] at he
    exact h3 (by rw [he.1, he.2.1, he.2.2.1])

/-- An ending put on an id. -/
theorem IsId.append {path suffix : Text} (h : IsId path) (hs : IsName suffix) :
    IsId (path ++ suffix) := by
  obtain ⟨lead, names, hl, hn, rfl⟩ := h
  rcases List.eq_nil_or_concat names with rfl | ⟨init, last, rfl⟩
  · refine ⟨lead, [suffix], hl, by simpa using hs, ?_⟩
    simp [spell, Text.join]
  · rw [List.concat_eq_append] at hn ⊢
    refine ⟨lead, init ++ [last ++ suffix], hl, fun name hname => ?_, ?_⟩
    · rcases List.mem_append.1 hname with hi | hi
      · exact hn name (List.mem_append_left _ hi)
      · rw [List.mem_singleton.1 hi]
        exact (hn last (by simp)).append hs.no_slash
    · rw [spell_concat, spell_concat, List.append_assoc]

/-- Joining an id with a path that is not absolute puts a slash between them where one is
missing. -/
theorem join_spell {lead : Text} {names : List Text} (hl : IsLead lead)
    (h : ∀ name ∈ names, IsName name) {path : Text} (hp : isAbsolute path = false) :
    join (spell lead names) path = front lead names ++ path := by
  have hne : spell lead names ≠ [] := by rcases hl with rfl | rfl <;> simp [spell]
  rw [join, if_neg (by simp [hp]), front]
  by_cases hnames : names = []
  · subst hnames
    have hlast : (spell lead []).getLast? = some '/' := by
      rcases hl with rfl | rfl <;> rfl
    rw [if_pos (by simp [hlast]), if_pos rfl]
    simp [spell, Text.join]
  · rw [if_neg (by simp [hne, getLast?_spell hnames h]), if_neg hnames]
    simp

theorem isAbsolute_of_no_slash {path : Text} (h : '/' ∉ path) :
    isAbsolute path = false := by
  cases path with
  | nil => rfl
  | cons c path =>
      have hc : c ≠ '/' := fun he => h (he ▸ List.mem_cons_self)
      simp [isAbsolute, hc]

/-- A name below an id. -/
theorem IsId.join {base name : Text} (h : IsId base) (hn : IsName name) :
    IsId (Path.join base name) := by
  obtain ⟨lead, names, hl, hnames, rfl⟩ := h
  rw [join_spell hl hnames (isAbsolute_of_no_slash hn.no_slash), ← spell_concat]
  refine ⟨lead, names ++ [name], hl, fun n hmem => ?_, rfl⟩
  rcases List.mem_append.1 hmem with hmem | hmem
  · exact hnames n hmem
  · exact List.mem_singleton.1 hmem ▸ hn

theorem parent_spell_nil {lead : Text} (hl : IsLead lead) :
    parent (spell lead []) = spell lead [] := by
  rcases hl with rfl | rfl <;> rfl

/-- The part of a path up to its last slash. -/
theorem dropWhile_reverse_append {a b : Text} (ha : a.getLast? = some '/')
    (hb : '/' ∉ b) : ((a ++ b).reverse.dropWhile (· ≠ '/')).reverse = a := by
  refine Text.dropWhileEnd_pad (fun c hc => decide_eq_true fun he => hb (he ▸ hc))
    fun c hc => ?_
  obtain rfl : '/' = c := Option.some.inj (ha.symm.trans hc)
  rfl

theorem parent_spell_concat {lead : Text} {names : List Text} {last : Text}
    (hl : IsLead lead) (h : ∀ name ∈ names, IsName name) (hlast : '/' ∉ last) :
    parent (spell lead (names ++ [last])) = spell lead names := by
  simp only [parent, spell_concat,
    dropWhile_reverse_append (getLast?_front hl names) hlast]
  by_cases hnames : names = []
  · subst hnames
    rcases hl with rfl | rfl <;> rfl
  · have hend : (spell lead names).getLast? ≠ some '/' := getLast?_spell hnames h
    have hne : spell lead names ≠ [] := by rcases hl with rfl | rfl <;> simp [spell]
    have hall : (front lead names).all (· = '/') = false := by
      rw [front, if_neg hnames, List.all_append, Bool.and_eq_false_iff]
      refine Or.inl (List.all_eq_false.2 ⟨(spell lead names).getLast hne,
        List.getLast_mem hne, ?_⟩)
      rw [List.getLast?_eq_some_getLast hne] at hend
      simpa using hend
    rw [if_neg (by simp [hall]), front, if_neg hnames]
    exact Text.dropWhileEnd_pad (by simp) fun c hc => decide_eq_false fun he =>
      hend (he ▸ hc)

/-- The directory of an id. -/
theorem IsId.parent {path : Text} (h : IsId path) : IsId (Path.parent path) := by
  obtain ⟨lead, names, hl, hn, rfl⟩ := h
  rcases List.eq_nil_or_concat names with rfl | ⟨init, last, rfl⟩
  · rw [parent_spell_nil hl]
    exact ⟨lead, [], hl, hn, rfl⟩
  · rw [List.concat_eq_append] at hn ⊢
    have hinit : ∀ name ∈ init, IsName name :=
      fun n hmem => hn n (List.mem_append_left _ hmem)
    rw [parent_spell_concat hl hinit (hn last (by simp)).no_slash]
    exact ⟨lead, init, hl, hinit, rfl⟩

/-! ## File names

Cutting the extension off a name cannot leave one of the three components that
normalising drops: the dots in front of a name do not start an extension, so
some other character always stays. -/

theorem exists_mem_ne_dot {name : Text} (h : name.head? ≠ some '.') (hne : name ≠ []) :
    ∃ c ∈ name, c ≠ '.' := by
  cases name with
  | nil => exact absurd rfl hne
  | cons c name => exact ⟨c, List.mem_cons_self, fun he => h (by rw [he]; rfl)⟩

theorem IsName.of_mem_ne_dot {name : Text} {c : Char} (hmem : c ∈ name) (hc : c ≠ '.')
    (hs : '/' ∉ name) : IsName name := by
  refine ⟨List.ne_nil_of_mem hmem, fun he => hc ?_, fun he => hc ?_, hs⟩
  · rw [he] at hmem
    simpa using hmem
  · rw [he] at hmem
    simpa using hmem

theorem IsName.stem {name : Text} (h : IsName name) : IsName (Path.stem name) := by
  rw [Path.stem, splitName]
  cases hcut : Text.cutLast ['.'] (name.dropWhile (· = '.')) with
  | none => exact h
  | some parts =>
      obtain ⟨before, ext⟩ := parts
      have hbody := Text.cutLast_eq_some hcut
      have hname : name = name.takeWhile (· = '.') ++ (before ++ ['.'] ++ ext) := by
        rw [← hbody, List.takeWhile_append_dropWhile]
      have hhead : (before ++ ['.'] ++ ext).head? ≠ some '.' := by
        rw [← hbody]
        exact fun he => of_decide_eq_false (Text.head_dropWhile (· = '.') name '.' he) rfl
      have hbefore : before ≠ [] := by
        rintro rfl
        exact hhead rfl
      have hfirst : before.head? ≠ some '.' := by
        cases before with
        | nil => exact absurd rfl hbefore
        | cons c rest => simpa using hhead
      obtain ⟨c, hmem, hc⟩ := exists_mem_ne_dot hfirst hbefore
      refine .of_mem_ne_dot (List.mem_append_right _ hmem) hc fun hslash => h.no_slash ?_
      rw [hname]
      rcases List.mem_append.1 hslash with hd | hb
      · exact List.mem_append_left _ hd
      · simp [hb]

theorem baseName_spell_concat {lead : Text} {names : List Text} {last : Text}
    (hl : IsLead lead) (hlast : '/' ∉ last) :
    baseName (spell lead (names ++ [last])) = last := by
  have hl' : ∀ c ∈ last.reverse, (decide (c ≠ '/')) = true := by
    intro c hc
    have : c ≠ '/' := fun he => hlast (he ▸ List.mem_reverse.1 hc)
    simp [this]
  have hf : (front lead names).reverse.takeWhile (· ≠ '/') = [] := by
    have hend := getLast?_front hl names
    rw [← List.head?_reverse] at hend
    cases hr : (front lead names).reverse with
    | nil => rfl
    | cons c rest =>
        rw [hr, List.head?_cons, Option.some.injEq] at hend
        simp [hend]
  rw [baseName, spell_concat, List.reverse_append, List.takeWhile_append_of_pos hl', hf]
  simp

/-! ## Reading from an id -/

theorem components_append_sep (a b : Text) :
    components (a ++ '/' :: b) =
      ((split '/' b).foldl step (components a).reverse).reverse := by
  rw [components, split_append_sep, List.foldl_append, components, List.reverse_reverse]

theorem components_front {lead : Text} {names : List Text} (hl : IsLead lead)
    (h : ∀ name ∈ names, IsName name) (path : Text) :
    components (front lead names ++ path) =
      ((split '/' path).foldl step names.reverse).reverse := by
  rw [front]
  split
  · next hnil =>
      subst hnil
      rcases hl with rfl | rfl
      · exact components_append_sep [] path
      · exact components_append_sep ['/'] path
  · rw [List.append_assoc, List.singleton_append, components_append_sep,
      components_spell hl h]

theorem leadingSlashes_front {lead : Text} {names : List Text} (hl : IsLead lead)
    (h : ∀ name ∈ names, IsName name) {path : Text} (hp : isAbsolute path = false) :
    leadingSlashes (front lead names ++ path) = lead := by
  have hwhile : (front lead names ++ path).takeWhile (· = '/') = lead := by
    rw [front]
    split
    · have hnone : path.takeWhile (· = '/') = [] := by
        cases path with
        | nil => rfl
        | cons c path =>
            have hc : c ≠ '/' := by simpa [isAbsolute] using hp
            simp [hc]
      rcases hl with rfl | rfl <;> simp [hnone]
    · next hne =>
        have hlen : ((spell lead names).takeWhile (· = '/')).length ≠
            (spell lead names).length := by
          rw [takeWhile_spell hl h, spell, List.length_append]
          have hjoin : Text.join ['/'] names ≠ [] := by
            intro he
            have := split_join hne fun n hmem => (h n hmem).no_slash
            rw [he] at this
            exact (h [] (this ▸ by simp [split])).ne_nil rfl
          have := List.length_pos_iff.2 hjoin
          omega
        rw [List.append_assoc, List.takeWhile_append, if_neg hlen, takeWhile_spell hl h]
  unfold leadingSlashes
  rw [hwhile]
  rcases hl with rfl | rfl <;> rfl

/-- The components of a path that lead somewhere: the empty one and `.` do not. -/
def kept (path : Text) : List Text := (path.split '/').filter fun c => c ≠ [] && c ≠ ['.']

/-- Without `..`, a walk takes exactly the components that lead somewhere. -/
theorem foldl_step_filter {pieces : List Text} (h : ['.', '.'] ∉ pieces)
    (deeper : List Text) :
    pieces.foldl step deeper =
      (pieces.filter fun c => c ≠ [] && c ≠ ['.']).reverse ++ deeper := by
  induction pieces generalizing deeper with
  | nil => rfl
  | cons piece pieces ih =>
      rw [List.mem_cons, not_or] at h
      rw [List.foldl_cons, ih h.2, step, List.filter_cons]
      by_cases hstay : piece = [] ∨ piece = ['.']
      · rcases hstay with rfl | rfl <;> rfl
      · rw [not_or] at hstay
        rw [if_neg (by simp [hstay]), if_neg (Ne.symm h.1), if_pos (by simp [hstay]),
          List.reverse_cons, List.append_assoc, List.singleton_append]

/-- A path without `..` that is read from an id leads to the place below it that its
components name. -/
theorem normal_join_spell {lead : Text} {names : List Text} (hl : IsLead lead)
    (h : ∀ name ∈ names, IsName name) {path : Text} (hp : isAbsolute path = false)
    (hup : ['.', '.'] ∉ path.split '/') :
    normal (join (spell lead names) path) = spell lead (names ++ kept path) := by
  rw [join_spell hl h hp, normal, leadingSlashes_front hl h hp, components_front hl h,
    foldl_step_filter hup, List.reverse_append, List.reverse_reverse,
    List.reverse_reverse]
  rfl

/-! ## The root

A root in any spelling and its id name the same files, so what is asked of a
graph meets what was put into it. -/

/-- Components that lead nowhere: the empty one and `.`. -/
theorem normal_join_stay {base stay : Text} (h : IsId base)
    (hstay : stay = [] ∨ stay = ['.']) : normal (join base stay) = base := by
  obtain ⟨lead, names, hl, hn, rfl⟩ := h
  have hkept : isAbsolute stay = false ∧ ['.', '.'] ∉ stay.split '/' ∧
      kept stay = [] := by
    rcases hstay with rfl | rfl <;> decide
  rw [normal_join_spell hl hn hkept.1 hkept.2.1, hkept.2.2, List.append_nil]

theorem normal_join_dot {base : Text} (h : IsId base) : normal (join base ['.']) = base :=
  normal_join_stay h (.inr rfl)

theorem canonical_dot (cwd root : Text) : canonical cwd root ['.'] = absolute cwd root :=
  normal_join_dot (isId_normal _)

/-- An absolute path takes no notice of what it is read from. -/
theorem canonical_eq_normal_join (cwd root path : Text) :
    canonical cwd root path = normal (Path.join (absolute cwd root) path) := by
  rw [canonical]
  split
  · next habs => rw [Path.join, if_pos habs]
  · rfl

theorem canonical_canonical_dot (cwd root path : Text) :
    canonical cwd (canonical cwd root ['.']) path = canonical cwd root path := by
  have hid : IsId (absolute cwd root) := isId_normal _
  rw [canonical_dot, canonical, canonical, hid.absolute_eq]

end ImpactGraph.Path
