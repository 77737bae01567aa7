import ImpactGraph.Proofs.TextParts
import ImpactGraph.Proofs.TreePaths

/-!
# Files named from a root

A file is named from a root by the way that leads to it, unless that way leads up.
Whether it does is asked of the text, which begins with two dots and a slash or
is two dots; a directory called `..x` must not pass for that. `leadsUp_writeSteps`
says that the text answers for the first step, and the first step is up exactly
when the root is not among the directories above the file.
-/

namespace ImpactGraph.Path

open Text

variable {cwd root file lead : Text} {ns below steps : List Text}

/-! ## The way from one id to another -/

theorem names_spell (hl : IsLead lead) (hn : ∀ name ∈ ns, IsName name) :
    names (spell lead ns) = ns := by
  obtain ⟨empty, -, hempty, hsplit⟩ := Workspace.split_spell hl ns
  have hnone : empty.filter (· ≠ []) = [] := List.filter_eq_nil_iff.2 fun piece hmem => by
    simp [hempty piece hmem]
  rw [names, hsplit, List.filter_append, hnone, List.nil_append]
  by_cases hns : ns = []
  · subst hns
    rfl
  · rw [split_join hns fun name hmem => (hn name hmem).no_slash]
    exact List.filter_eq_self.2 fun name hmem => by simpa using (hn name hmem).ne_nil

theorem dropCommon_append (as below : List Text) :
    dropCommon as (as ++ below) = ([], below) := by
  induction as with
  | nil => cases below <;> rfl
  | cons a as ih => rw [List.cons_append, dropCommon, if_pos rfl, ih]

theorem eq_append_of_dropCommon {as bs : List Text} (h : (dropCommon as bs).1 = []) :
    bs = as ++ (dropCommon as bs).2 := by
  fun_induction dropCommon as bs with
  | case1 a as bs ih => rw [List.cons_append, ← ih h]
  | case2 a as b bs hab => exact absurd h (by simp)
  | case3 as bs hother =>
      subst h
      rfl

theorem mem_of_mem_dropCommon {as bs : List Text} {name : Text}
    (h : name ∈ (dropCommon as bs).2) : name ∈ bs := by
  fun_induction dropCommon as bs with
  | case1 a as bs ih => exact List.mem_cons_of_mem _ (ih h)
  | case2 a as b bs hab => exact h
  | case3 as bs hother => exact h

theorem dots_prefix_iff {step rest : Text} (h : '/' ∉ step) :
    ['.', '.', '/'] <+: step ++ '/' :: rest ↔ step = ['.', '.'] := by
  constructor
  · rintro ⟨t, ht⟩
    have hno : ∀ c ∈ step, decide (c = '/') = false := fun c hc =>
      decide_eq_false fun he => h (he ▸ hc)
    have hsplit : ['.', '.'] ++ '/' :: t = step ++ '/' :: rest := ht
    exact (eq_of_first (by decide) hno rfl rfl hsplit).1.symm
  · rintro rfl
    exact ⟨rest, rfl⟩

/-- The text of a way says whether its first step leads up. -/
theorem leadsUp_writeSteps (h : ∀ step ∈ steps, '/' ∉ step) :
    leadsUp (writeSteps steps) = true ↔ steps.head? = some ['.', '.'] := by
  rw [leadsUp, Bool.or_eq_true, decide_eq_true_eq, startsWith_iff]
  match steps with
  | [] => decide
  | [step] =>
      have hstep : '/' ∉ step := h step List.mem_cons_self
      have hno : ¬ ['.', '.', '/'] <+: step :=
        fun hstart => hstep (hstart.subset (by simp))
      have hwrite : writeSteps [step] = step := rfl
      rw [hwrite, or_iff_left hno, List.head?_cons, Option.some.injEq]
  | step :: next :: rest =>
      have hstep : '/' ∉ step := h step List.mem_cons_self
      have hwrite : writeSteps (step :: next :: rest) =
          step ++ '/' :: Text.join ['/'] (next :: rest) := List.append_assoc _ _ _
      have hno : step ++ '/' :: Text.join ['/'] (next :: rest) ≠
          ['.', '.'] := fun he => by
        have hmem : '/' ∈ ['.', '.'] := he ▸ by simp
        exact absurd hmem (by decide)
      rw [hwrite, or_iff_right hno, dots_prefix_iff hstep, List.head?_cons,
        Option.some.injEq]

section Ids

variable {lead' : Text} {fs : List Text}

theorem way_spell (hl : IsLead lead) (hl' : IsLead lead') (hn : ∀ name ∈ ns, IsName name)
    (hf : ∀ name ∈ fs, IsName name) : way cwd (spell lead ns) (spell lead' fs) =
      writeSteps ((dropCommon ns fs).1.map (fun _ => ['.', '.']) ++
        (dropCommon ns fs).2) := by
  have hstart : IsId (spell lead ns) := ⟨lead, ns, hl, hn, rfl⟩
  have hend : IsId (spell lead' fs) := ⟨lead', fs, hl', hf, rfl⟩
  rw [way, hstart.absolute_eq, hend.absolute_eq, names_spell hl hn, names_spell hl' hf]

theorem way_below (hl : IsLead lead) (hl' : IsLead lead') (hn : ∀ name ∈ ns, IsName name)
    (hb : ∀ name ∈ below, IsName name) :
    way cwd (spell lead ns) (spell lead' (ns ++ below)) = writeSteps below := by
  rw [way_spell hl hl' hn (List.forall_mem_append.2 ⟨hn, hb⟩), dropCommon_append]
  rfl

/-- Between two ids the way leads up unless the names of the one begin those of the
other. -/
theorem leadsUp_way (hl : IsLead lead) (hl' : IsLead lead')
    (hn : ∀ name ∈ ns, IsName name) (hf : ∀ name ∈ fs, IsName name) :
    leadsUp (way cwd (spell lead ns) (spell lead' fs)) = true ↔ ¬ ns <+: fs := by
  have hdown : ∀ step ∈ (dropCommon ns fs).2, IsName step := fun step hmem =>
    hf step (mem_of_mem_dropCommon hmem)
  rw [way_spell hl hl' hn hf, leadsUp_writeSteps]
  · cases hups : (dropCommon ns fs).1 with
    | nil =>
        refine iff_of_false (fun hhead => ?_) fun hno =>
          hno ⟨_, (eq_append_of_dropCommon hups).symm⟩
        exact (hdown _ (List.mem_of_mem_head? hhead)).ne_dots rfl
    | cons up ups =>
        refine iff_of_true rfl fun ⟨below, hbelow⟩ => ?_
        rw [← hbelow, dropCommon_append] at hups
        cases hups
  · intro step hmem
    rcases List.mem_append.1 hmem with hup | hstep
    · obtain ⟨_, -, rfl⟩ := List.mem_map.1 hup
      decide
    · exact (hdown step hstep).no_slash

end Ids

theorem isAbsolute_writeSteps (hb : ∀ name ∈ below, IsName name) :
    isAbsolute (writeSteps below) = false := by
  rw [isAbsolute, decide_eq_false_iff_not, writeSteps]
  split
  · decide
  · exact head?_join_names hb

/-- Steps down that are read from an id lead below it. -/
theorem canonical_writeSteps (hl : IsLead lead) (hn : ∀ name ∈ ns, IsName name)
    (hroot : canonical cwd root ['.'] = spell lead ns)
    (hb : ∀ name ∈ below, IsName name) :
    canonical cwd root (writeSteps below) = spell lead (ns ++ below) := by
  have hid : IsId (spell lead ns) := ⟨lead, ns, hl, hn, rfl⟩
  rw [canonical_eq_normal_join, ← canonical_dot, hroot]
  by_cases hbelow : below = []
  · subst hbelow
    rw [List.append_nil]
    exact normal_join_dot hid
  · rw [join_spell hl hn (isAbsolute_writeSteps hb), writeSteps, if_neg hbelow,
      ← spell_append lead ns hbelow, normal_spell hl (List.forall_mem_append.2 ⟨hn, hb⟩)]

/-- A file is named from a root by its names below the root where it is below it, and by
its id where it is not. Either name leads from the root to the file. -/
theorem canonical_relativeTo (cwd root : Text) (hfile : IsId file)
    (hlead : file.takeWhile (· = '/') = (canonical cwd root ['.']).takeWhile (· = '/')) :
    canonical cwd root (relativeTo cwd root file) = file ∧
    (isAbsolute (relativeTo cwd root file) = false ↔
      ∃ below, (∀ name ∈ below, IsName name) ∧
        file = joinAll (canonical cwd root ['.']) below) ∧
    (isAbsolute (relativeTo cwd root file) = true → relativeTo cwd root file = file) := by
  obtain ⟨lead, ns, hl, hn, hroot⟩ := isId_canonical cwd root ['.']
  obtain ⟨lead', fs, hl', hf, rfl⟩ := id hfile
  rw [hroot, takeWhile_spell hl hn, takeWhile_spell hl' hf] at hlead
  subst hlead
  have hne : spell lead' fs ≠ [] := fun he => by
    have habs := hfile.isAbsolute
    rw [he] at habs
    exact absurd habs (by decide)
  have hjoin {below : List Text} (hb : ∀ name ∈ below, IsName name) :=
    joinAll_spell hl hn hb
  simp only [relativeTo, if_neg hne, hroot]
  by_cases hbelow : ns <+: fs
  · obtain ⟨below, rfl⟩ := hbelow
    have hb : ∀ name ∈ below, IsName name := fun name hmem =>
      hf name (List.mem_append_right _ hmem)
    have hdown : leadsUp (way cwd (spell lead' ns) (spell lead' (ns ++ below))) = false :=
      Bool.eq_false_iff.2 fun hup => (leadsUp_way hl hl' hn hf).1 hup ⟨below, rfl⟩
    rw [if_neg (by simp [hdown]), way_below hl hl' hn hb, isAbsolute_writeSteps hb]
    refine ⟨canonical_writeSteps hl hn hroot hb,
      iff_of_true rfl ⟨below, hb, (hjoin hb).symm⟩, ?_⟩
    exact fun habs => absurd habs (by decide)
  · rw [if_pos ((leadsUp_way hl hl' hn hf).2 hbelow), hfile.isAbsolute]
    refine ⟨hfile.canonical_eq cwd root, iff_of_false (by decide) ?_, fun _ => rfl⟩
    rintro ⟨below, hb, heq⟩
    rw [hjoin hb] at heq
    have hnames := congrArg names heq
    rw [names_spell hl' hf, names_spell hl' (List.forall_mem_append.2 ⟨hn, hb⟩)] at hnames
    exact hbelow ⟨below, hnames.symm⟩

/-- A directory whose name starts with two dots is below its root, and one whose name goes
on where that of the root ends is not. -/
theorem relativeTo_of_dottedDirectory :
    canonical "/w".toList "proj".toList
      (relativeTo "/w".toList "proj".toList "/w/proj/..x/a.py".toList) =
        "/w/proj/..x/a.py".toList ∧
    isAbsolute (relativeTo "/w".toList "proj".toList "/w/proj/..x/a.py".toList) = false ∧
    relativeTo "/w".toList "proj".toList "/w/projx/a.py".toList =
      "/w/projx/a.py".toList := by
  have hbelow : IsId "/w/proj/..x/a.py".toList :=
    ⟨['/'], ["w".toList, "proj".toList, "..x".toList, "a.py".toList], .inl rfl, by
      decide, by decide⟩
  have hbeside : IsId "/w/projx/a.py".toList :=
    ⟨['/'], ["w".toList, "projx".toList, "a.py".toList], .inl rfl, by decide, by decide⟩
  obtain ⟨hback, hrelative, -⟩ :=
    canonical_relativeTo "/w".toList "proj".toList hbelow (by decide)
  obtain ⟨-, -, hsame⟩ :=
    canonical_relativeTo "/w".toList "proj".toList hbeside (by decide)
  refine ⟨hback, hrelative.2 ⟨["..x".toList, "a.py".toList], by decide, by decide⟩, ?_⟩
  exact hsame (by decide)

end ImpactGraph.Path
