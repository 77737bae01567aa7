import Mathlib.Order.Bounds.Basic
import Mathlib.Order.Nat
import ImpactGraph.Proofs.ImpactUnions

/-!
# The order of the affected files

The walk counts no steps. What it keeps is an order of meeting: files are looked
up one after another, and of two affected files the one that came up in an
earlier lookup stands first, by name when both came up in the same one. That
order alone gives the levels. Suppose a file that is at most `d + 1` edges away
stood behind one that is further. It would have come up no earlier, so the lookup
that brought the other up came no later than that of a dependency at most `d`
edges away; and the other's dependency is more than `d` away, so this is the
same mistake one level down. At level zero there is none, for the changed files
are the head of the line.

So the levels need no graph, only a line of files and a relation with this order
(`Explored`). In a graph the relation is what lookups see; where facts are filed
under ids it is the edges themselves.
-/

namespace ImpactGraph

open Relation

variable {step step' : Text → Text → Prop} {sources found : List Text} {d m n : Nat}
  {a b c f p q u v : Text}

/-! ## Distances -/

/-- A path of so many edges. -/
inductive Steps (step : Text → Text → Prop) : Nat → Text → Text → Prop
  | here (f : Text) : Steps step 0 f f
  | edge {n : Nat} {f v c : Text} (h : step f v) (rest : Steps step n v c) :
      Steps step (n + 1) f c

/-- The shortest path from a file to one of the sources has so many edges. -/
def Away (step : Text → Text → Prop) (sources : List Text) (d : Nat) (f : Text) : Prop :=
  IsLeast {n | ∃ c ∈ sources, Steps step n f c} d

/-- Some source is at most so many edges away. -/
def Within (step : Text → Text → Prop) (sources : List Text) (d : Nat)
    (f : Text) : Prop :=
  ∃ n ≤ d, ∃ c ∈ sources, Steps step n f c

theorem Within.mono (h : Within step sources m f) (hle : m ≤ n) :
    Within step sources n f := by
  obtain ⟨k, hk, hpath⟩ := h
  exact ⟨k, hk.trans hle, hpath⟩

theorem within_zero : Within step sources 0 f ↔ f ∈ sources := by
  constructor
  · rintro ⟨n, hn, c, hc, hpath⟩
    obtain rfl := Nat.le_zero.1 hn
    cases hpath
    exact hc
  · exact fun hf => ⟨0, Nat.le_refl 0, f, hf, .here f⟩

theorem within_succ :
    Within step sources (d + 1) f ↔ f ∈ sources ∨ ∃ v, step f v ∧
      Within step sources d v := by
  constructor
  · rintro ⟨n, hn, c, hc, hpath⟩
    cases hpath with
    | here => exact .inl hc
    | edge h rest => exact .inr ⟨_, h, _, Nat.le_of_succ_le_succ hn, c, hc, rest⟩
  · rintro (hf | ⟨v, h, n, hn, c, hc, rest⟩)
    · exact ⟨0, Nat.zero_le _, f, hf, .here f⟩
    · exact ⟨n + 1, Nat.succ_le_succ hn, c, hc, .edge h rest⟩

theorem Away.within (h : Away step sources d f) : Within step sources d f :=
  ⟨d, Nat.le_refl d, h.1⟩

theorem Away.not_within (h : Away step sources d f) (hlt : m < d) :
    ¬ Within step sources m f := by
  rintro ⟨n, hn, hpath⟩
  have hle : d ≤ n := h.2 hpath
  omega

theorem away_succ (h : Within step sources (d + 1) f) (hnot : ¬ Within step sources d f) :
    Away step sources (d + 1) f := by
  obtain ⟨n, hn, hpath⟩ := h
  have hleast : ∀ k, (∃ c ∈ sources, Steps step k f c) → d + 1 ≤ k := by
    intro k hk
    by_contra hlt
    exact hnot ⟨k, by omega, hk⟩
  have heq : n = d + 1 := Nat.le_antisymm hn (hleast n hpath)
  exact ⟨heq ▸ hpath, fun k hk => hleast k hk⟩

theorem away_zero (h : f ∈ sources) : Away step sources 0 f :=
  ⟨⟨f, h, .here f⟩, fun _ _ => Nat.zero_le _⟩

theorem exists_steps (h : ReflTransGen step f c) : ∃ n, Steps step n f c := by
  induction h using ReflTransGen.head_induction_on with
  | refl => exact ⟨0, .here c⟩
  | head hf _ ih =>
      obtain ⟨n, hpath⟩ := ih
      exact ⟨n + 1, .edge hf hpath⟩

theorem exists_away (hc : c ∈ sources) (h : ReflTransGen step f c) :
    ∃ d, Away step sources d f := by
  classical
  have hpath : ∃ n, ∃ c ∈ sources, Steps step n f c := by
    obtain ⟨n, hpath⟩ := exists_steps h
    exact ⟨n, c, hc, hpath⟩
  exact ⟨Nat.find hpath, Nat.find_spec hpath, fun _ hk => Nat.find_min' hpath hk⟩

/-! ## Breadth first -/

/-- Where the files are listed that are so many edges away. -/
def listed (sources found : List Text) : Nat → List Text
  | 0 => sources
  | _ + 1 => found

/-- The first of the direct dependencies of a file that are so many edges away. -/
structure FirstDependency (step : Text → Text → Prop)
    (sources found : List Text) (d : Nat) (f p : Text) : Prop where
  edge : step f p
  mem : p ∈ listed sources found d
  away : Away step sources d p
  first : ∀ q ∈ listed sources found d, step f q → Away step sources d q →
    (listed sources found d).idxOf p ≤ (listed sources found d).idxOf q

/-- What is found is listed breadth first: nearer files before those further away, files
equally far in the order of their first dependencies one edge nearer, and those that share
it in code-point order. -/
structure BreadthFirst (step : Text → Text → Prop)
    (sources found : List Text) : Prop where
  nodup : (sources ++ found).Nodup
  away : ∀ f ∈ found, ∃ d, Away step sources (d + 1) f
  levels : found.Pairwise fun a b =>
    ∀ m n, Away step sources m a → Away step sources n b → m ≤ n
  dependency : ∀ d, ∀ f ∈ found, Away step sources (d + 1) f →
    ∃ p, FirstDependency step sources found d f p
  order : ∀ d, ∀ a ∈ found, ∀ b ∈ found,
    Away step sources (d + 1) a → Away step sources (d + 1) b →
    ∀ p q, FirstDependency step sources found d a p →
      FirstDependency step sources found d b q →
      (found.idxOf a < found.idxOf b ↔
        (listed sources found d).idxOf p < (listed sources found d).idxOf q ∨
          p = q ∧ a ≠ b ∧ Text.le a b = true)

/-- Along a line of lookups the first file came up before the second, or in the same
lookup and with the smaller name. -/
def MetBefore (step : Text → Text → Prop) (line : List Text) (a b : Text) : Prop :=
  ∃ before v after, line = before ++ v :: after ∧ step a v ∧
    (∀ u ∈ before, ¬ step a u ∧ ¬ step b u) ∧ (step b v → Text.le a b = true)

theorem MetBefore.append {line : List Text} (h : MetBefore step line a b)
    (more : List Text) : MetBefore step (line ++ more) a b := by
  obtain ⟨before, v, after, rfl, hrest⟩ := h
  exact ⟨before, v, after ++ more, by simp, hrest⟩

/-- What a walk leaves that looked up every file it had met. -/
structure Explored (step : Text → Text → Prop) (sources found : List Text) : Prop where
  nodup : (sources ++ found).Nodup
  reached : ∀ f ∈ found, ∃ c ∈ sources, ReflTransGen step f c
  closed : ∀ v ∈ sources ++ found, ∀ f, step f v → f ∈ sources ++ found
  order : found.Pairwise (MetBefore step (sources ++ found))

/-! ### Places in a list -/

/-- Nothing of a kind stands before the first of that kind. -/
theorem idxOf_le_of_first {P : Text → Prop} {l before after : List Text}
    (hl : l = before ++ v :: after) (hnone : ∀ x ∈ before, ¬ P x) (hv : P v) (hu : P u) :
    l.idxOf v ≤ l.idxOf u := by
  have hv : v ∉ before := fun hmem => hnone v hmem hv
  have hu : u ∉ before := fun hmem => hnone u hmem hu
  rw [hl, List.idxOf_append_of_notMem hv, List.idxOf_append_of_notMem hu,
    List.idxOf_cons_self]
  omega

theorem rel_of_idxOf_lt {R : Text → Text → Prop} {l : List Text}
    (h : l.Pairwise R) (hb : b ∈ l) (hlt : l.idxOf a < l.idxOf b) : R a b := by
  have hlb := List.idxOf_lt_length_of_mem hb
  have hrel := List.pairwise_iff_getElem.1 h _ _ (hlt.trans hlb) hlb hlt
  rwa [List.getElem_idxOf, List.getElem_idxOf] at hrel

/-- A list that holds a file of a kind holds a first one. -/
theorem exists_first {P : Text → Prop} {l : List Text} (h : ∃ v ∈ l, P v) :
    ∃ before v after, l = before ++ v :: after ∧ P v ∧ ∀ u ∈ before, ¬ P u := by
  induction l with
  | nil => exact absurd h (by simp)
  | cons x l ih =>
      by_cases hx : P x
      · exact ⟨[], x, l, rfl, hx, fun _ hu => absurd hu List.not_mem_nil⟩
      · obtain ⟨v, hv, hP⟩ := h
        rcases List.mem_cons.1 hv with rfl | hv
        · exact absurd hP hx
        · obtain ⟨before, w, after, rfl, hw, hnone⟩ := ih ⟨v, hv, hP⟩
          exact ⟨x :: before, w, after, rfl, hw, List.forall_mem_cons.2 ⟨hx, hnone⟩⟩

namespace Explored

variable (h : Explored step sources found)
include h

theorem mem_of_steps (hpath : Steps step n f c) (hc : c ∈ sources) :
    f ∈ sources ++ found := by
  induction hpath with
  | here => exact List.mem_append_left _ hc
  | edge hf _ ih => exact h.closed _ (ih hc) _ hf

theorem mem_of_within (hf : Within step sources d f) : f ∈ sources ++ found := by
  obtain ⟨n, -, c, hc, hpath⟩ := hf
  exact h.mem_of_steps hpath hc

theorem notMem_sources (hf : f ∈ found) : f ∉ sources :=
  fun hs => (List.nodup_append.1 h.nodup).2.2 f hs f hf rfl

theorem idxOf_found (hf : f ∈ found) :
    (sources ++ found).idxOf f = sources.length + found.idxOf f :=
  List.idxOf_append_of_notMem (h.notMem_sources hf)

/-- Of two affected files the one listed first was met first. -/
theorem metBefore_of_lt (hb : b ∈ found) (hlt : found.idxOf a < found.idxOf b) :
    MetBefore step (sources ++ found) a b :=
  rel_of_idxOf_lt h.order hb hlt

/-- Nearer files stand before those further away. -/
theorem idxOf_lt (ha : Within step sources d a) (hb : b ∈ sources ++ found)
    (hfar : ¬ Within step sources d b) :
    (sources ++ found).idxOf a < (sources ++ found).idxOf b := by
  induction d generalizing a b with
  | zero =>
      rw [within_zero] at ha hfar
      have hb : b ∈ found := (List.mem_append.1 hb).resolve_left hfar
      rw [List.idxOf_append_of_mem ha, h.idxOf_found hb]
      have := List.idxOf_lt_length_of_mem ha
      omega
  | succ d ih =>
      have hfar' : ¬ Within step sources d b := fun hw => hfar (hw.mono (Nat.le_succ d))
      by_cases hnear : Within step sources d a
      · exact ih hnear hb hfar'
      -- Both are affected files now. Were the order the other way round, the lookup that
      -- met the far one would come no later than that of a dependency of the near one.
      obtain ⟨u, hau, hu⟩ : ∃ u, step a u ∧ Within step sources d u := by
        refine (within_succ.1 ha).resolve_left fun hs => hnear ?_
        exact (within_zero.2 hs).mono (Nat.zero_le d)
      have hfound : ∀ {x}, x ∈ sources ++ found → ¬ Within step sources d x → x ∈ found :=
        fun hx hnot => (List.mem_append.1 hx).resolve_left fun hs =>
          hnot ((within_zero.2 hs).mono (Nat.zero_le d))
      have ha' : a ∈ found := hfound (h.mem_of_within ha) hnear
      have hb' : b ∈ found := hfound hb hfar'
      rw [h.idxOf_found ha', h.idxOf_found hb', Nat.add_lt_add_iff_left]
      by_contra hle
      have hne : found.idxOf b ≠ found.idxOf a := fun he =>
        hfar ((List.idxOf_inj hb').1 he ▸ ha)
      obtain ⟨before, v, after, hline, hbv, hnone, -⟩ :=
        h.metBefore_of_lt ha' (by omega : found.idxOf b < found.idxOf a)
      have hv : ¬ Within step sources d v :=
        fun hw => hfar (within_succ.2 (.inr ⟨v, hbv, hw⟩))
      have hmem : v ∈ sources ++ found := by simp [hline]
      have hle' := idxOf_le_of_first (P := fun x => step b x ∨ step a x) hline
        (fun x hx => not_or.2 (hnone x hx)) (.inl hbv) (.inr hau)
      exact absurd (ih hu hmem hv) (Nat.not_lt.2 hle')

theorem exists_away (hf : f ∈ found) : ∃ d, Away step sources (d + 1) f := by
  obtain ⟨c, hc, hpath⟩ := h.reached f hf
  obtain ⟨d, haway⟩ := ImpactGraph.exists_away hc hpath
  cases d with
  | zero => exact absurd (within_zero.1 haway.within) (h.notMem_sources hf)
  | succ d => exact ⟨d, haway⟩

theorem levels : found.Pairwise fun a b =>
    ∀ m n, Away step sources m a → Away step sources n b → m ≤ n := by
  refine List.pairwise_iff_getElem.2 fun i j hi hj hij m n ha hb => ?_
  by_contra hlt
  have hmem {k} (hk : k < found.length) : found[k] ∈ sources ++ found :=
    List.mem_append_right _ (List.getElem_mem hk)
  have hback := h.idxOf_lt hb.within (hmem hi) (ha.not_within (Nat.lt_of_not_le hlt))
  have hnodup := (List.nodup_append.1 h.nodup).2.1
  rw [h.idxOf_found (List.getElem_mem hi), h.idxOf_found (List.getElem_mem hj),
    hnodup.idxOf_getElem, hnodup.idxOf_getElem] at hback
  omega

/-- A dependency one edge nearer is listed where files of its distance are. -/
theorem mem_listed (hv : Away step sources d v) : v ∈ listed sources found d := by
  cases d with
  | zero => exact within_zero.1 hv.within
  | succ d =>
      refine (List.mem_append.1 (h.mem_of_within hv.within)).resolve_left fun hs => ?_
      exact hv.not_within (Nat.succ_pos d) (within_zero.2 hs)

/-- Files equally far away stand in their list as they stand in the whole line. -/
theorem idxOf_listed (hu : u ∈ listed sources found d) (hv : v ∈ listed sources found d) :
    (listed sources found d).idxOf u < (listed sources found d).idxOf v ↔
      (sources ++ found).idxOf u < (sources ++ found).idxOf v := by
  cases d with
  | zero =>
      rw [listed] at hu hv ⊢
      rw [List.idxOf_append_of_mem hu, List.idxOf_append_of_mem hv]
  | succ d => rw [listed, h.idxOf_found hu, h.idxOf_found hv, Nat.add_lt_add_iff_left]

theorem exists_firstDependency (hf : Away step sources (d + 1) f) :
    ∃ p, FirstDependency step sources found d f p := by
  have hsome : ∃ v ∈ listed sources found d, step f v ∧ Away step sources d v := by
    obtain ⟨c, hc, hpath⟩ := hf.1
    cases hpath with
    | edge hedge rest =>
        refine ⟨_, h.mem_listed ?_, hedge, ?_⟩ <;>
          exact ⟨⟨c, hc, rest⟩, fun k ⟨c', hc', hshort⟩ =>
            Nat.le_of_succ_le_succ (hf.2 ⟨c', hc', .edge hedge hshort⟩)⟩
  obtain ⟨before, p, after, hlist, ⟨hedge, haway⟩, hnone⟩ := exists_first hsome
  exact ⟨p, hedge, h.mem_listed haway, haway, fun q _ hq haway' =>
    idxOf_le_of_first hlist hnone ⟨hedge, haway⟩ ⟨hq, haway'⟩⟩

/-- The lookup in which a file was met is that of its first dependency one edge nearer. -/
theorem eq_firstDependency {before after : List Text} (ha : Away step sources (d + 1) a)
    (hp : FirstDependency step sources found d a p)
    (hline : sources ++ found = before ++ v :: after) (hav : step a v)
    (hnone : ∀ u ∈ before, ¬ step a u) : v = p := by
  have hle : (sources ++ found).idxOf v ≤ (sources ++ found).idxOf p :=
    idxOf_le_of_first hline hnone hav hp.edge
  have hmem : v ∈ sources ++ found := by simp [hline]
  have hwithin : Within step sources d v := by
    by_contra hfar
    exact absurd (h.idxOf_lt hp.away.within hmem hfar) (Nat.not_lt.2 hle)
  have haway : Away step sources d v := by
    cases d with
    | zero => exact away_zero (within_zero.1 hwithin)
    | succ d =>
        refine away_succ hwithin fun hnear => ?_
        exact ha.not_within (Nat.lt_succ_self _) (within_succ.2 (.inr ⟨v, hav, hnear⟩))
  have hlisted := h.mem_listed haway
  have hlast : ¬ (listed sources found d).idxOf p < (listed sources found d).idxOf v := by
    rw [h.idxOf_listed hp.mem hlisted]
    exact Nat.not_lt.2 hle
  refine (List.idxOf_inj hlisted).1 ?_
  exact Nat.le_antisymm (Nat.not_lt.1 hlast) (hp.first v hlisted hav haway)

theorem dependencies_of_lt (ha : Away step sources (d + 1) a) (hb : b ∈ found)
    (hp : FirstDependency step sources found d a p)
    (hq : FirstDependency step sources found d b q)
    (hlt : found.idxOf a < found.idxOf b) :
    (listed sources found d).idxOf p < (listed sources found d).idxOf q ∨
      p = q ∧ a ≠ b ∧ Text.le a b = true := by
  obtain ⟨before, v, after, hline, hav, hnone, hname⟩ := h.metBefore_of_lt hb hlt
  obtain rfl := h.eq_firstDependency ha hp hline hav fun u hu => (hnone u hu).1
  by_cases hpq : v = q
  · subst hpq
    exact .inr ⟨rfl, fun he => by simp [he] at hlt, hname hq.edge⟩
  · have hle := idxOf_le_of_first (P := fun x => step a x ∨ step b x) hline
      (fun x hx => not_or.2 (hnone x hx)) (.inl hav) (.inr hq.edge)
    have hmem : v ∈ sources ++ found := by simp [hline]
    rw [h.idxOf_listed hp.mem hq.mem]
    exact .inl (Nat.lt_of_le_of_ne hle fun he => hpq ((List.idxOf_inj hmem).1 he))

theorem order_iff (ha : a ∈ found) (hb : b ∈ found) (haway : Away step sources (d + 1) a)
    (hbway : Away step sources (d + 1) b) (hp : FirstDependency step sources found d a p)
    (hq : FirstDependency step sources found d b q) :
    found.idxOf a < found.idxOf b ↔
      (listed sources found d).idxOf p < (listed sources found d).idxOf q ∨
        p = q ∧ a ≠ b ∧ Text.le a b = true := by
  refine ⟨h.dependencies_of_lt haway hb hp hq, fun hbefore => ?_⟩
  rcases Nat.lt_trichotomy (found.idxOf a) (found.idxOf b) with hlt | heq | hgt
  · exact hlt
  · -- One file has one first dependency.
    obtain rfl := (List.idxOf_inj ha).1 heq
    rcases hbefore with hlt | ⟨-, hne, -⟩
    · exact absurd (hq.first p hp.mem hp.edge hp.away) (Nat.not_le.2 hlt)
    · exact absurd rfl hne
  · rcases hbefore with hlt | ⟨rfl, hne, hname⟩ <;>
      rcases h.dependencies_of_lt hbway ha hq hp hgt with hlt' | ⟨he, -, hname'⟩
    · omega
    · subst he
      exact absurd hlt (Nat.lt_irrefl _)
    · exact absurd hlt' (Nat.lt_irrefl _)
    · exact absurd (Text.le_antisymm hname hname') hne

theorem breadthFirst : BreadthFirst step sources found where
  nodup := h.nodup
  away _ hf := h.exists_away hf
  levels := h.levels
  dependency _ _ _ hf := h.exists_firstDependency hf
  order _ _ ha _ hb haway hbway _ _ hp hq := h.order_iff ha hb haway hbway hp hq

theorem path_congr (hstep : ∀ v ∈ sources ++ found, ∀ f, step f v ↔ step' f v)
    (hc : c ∈ sources ++ found) (hpath : ReflTransGen step f c) :
    f ∈ sources ++ found ∧ ReflTransGen step' f c := by
  induction hpath using ReflTransGen.head_induction_on with
  | refl => exact ⟨hc, .refl⟩
  | head hf _ ih =>
      obtain ⟨hv, hrest⟩ := ih
      exact ⟨h.closed _ hv _ hf, .head ((hstep _ hv _).1 hf) hrest⟩

/-- What sees the same dependents of the files in the line explores it too. -/
theorem congr (hstep : ∀ v ∈ sources ++ found, ∀ f, step f v ↔ step' f v) :
    Explored step' sources found where
  nodup := h.nodup
  reached f hf := by
    obtain ⟨c, hc, hpath⟩ := h.reached f hf
    exact ⟨c, hc, (h.path_congr hstep (List.mem_append_left _ hc) hpath).2⟩
  closed v hv f hf := h.closed v hv f ((hstep v hv f).2 hf)
  order := by
    refine h.order.imp fun {a b} hmet => ?_
    obtain ⟨before, v, after, hline, hav, hnone, hname⟩ := hmet
    have hv : v ∈ sources ++ found := by simp [hline]
    have hu : ∀ u ∈ before, u ∈ sources ++ found := fun u hu => by simp [hline, hu]
    refine ⟨before, v, after, hline, (hstep v hv a).1 hav, fun u hmem =>
      ?_, fun hbv => ?_⟩
    · rw [← hstep u (hu u hmem), ← hstep u (hu u hmem)]
      exact hnone u hmem
    · exact hname ((hstep v hv b).2 hbv)

end Explored

/-! ## The walk -/

namespace Walk

variable {g : Graph} {changed : List Text} {w : Walk} {file : Text} {waiting : List Text}

/-- What every turn of a walk keeps of the order in which files are met. -/
structure Orders (w : Walk) (g : Graph) (changed : List Text) : Prop where
  gathers : w.Gathers g changed
  met : ∀ f ∈ w.affected, ∃ v ∈ w.visited, g.Needs f v
  order : w.affected.Pairwise (MetBefore g.Needs w.visited.reverse)

namespace Orders

theorem start (hnodup : changed.Nodup) : Orders { waiting := changed } g changed where
  gathers := .start hnodup
  met _ h := absurd h List.not_mem_nil
  order := .nil

theorem visit (h : w.Orders g changed) (hw : w.waiting = file :: waiting) :
    (g.visit g.index changed w file waiting).Orders g changed := by
  have hfresh : ∀ {f}, f ∈ g.fresh g.index changed w file →
      g.Needs f file ∧ ∀ v ∈ w.visited, ¬ g.Needs f v := by
    intro f hf
    obtain ⟨hedge, -, hchanged, haffected⟩ := Graph.mem_fresh.1 hf
    refine ⟨Graph.dependsOn_iff.2 hedge, fun v hv hneeds => ?_⟩
    have hmem := h.gathers.closed v hv f hneeds
    exact (List.mem_append.1 hmem).elim hchanged haffected
  refine ⟨h.gathers.visit hw, ?_, ?_⟩
  · intro f hf
    show ∃ v ∈ file :: w.visited, g.Needs f v
    rcases List.mem_append.1 hf with hold | hnew
    · obtain ⟨v, hv, hneeds⟩ := h.met f hold
      exact ⟨v, List.mem_cons_of_mem _ hv, hneeds⟩
    · exact ⟨file, List.mem_cons_self, (hfresh hnew).1⟩
  · show (w.affected ++ g.fresh g.index changed w file).Pairwise
      (MetBefore g.Needs (file :: w.visited).reverse)
    rw [List.reverse_cons, List.pairwise_append]
    refine ⟨h.order.imp fun hmet => hmet.append _, ?_, fun a ha b hb => ?_⟩
    · -- Files met in one lookup are sorted, and none of them came up before.
      have hsorted := (Text.sort_pairwise (g.index.filesOf (g.canonical file))).filter
        fun f => f ∉ file :: w.visited && f ∉ changed && f ∉ w.affected
      refine hsorted.imp_of_mem fun {a b} ha hb hle => ?_
      refine ⟨w.visited.reverse, file, [], rfl, (hfresh ha).1, fun u hu =>
        ?_, fun _ => hle⟩
      have hu := List.mem_reverse.1 hu
      exact ⟨(hfresh ha).2 u hu, (hfresh hb).2 u hu⟩
    · obtain ⟨v, hv, hneeds⟩ := h.met a ha
      obtain ⟨before, v, after, hline, hav, hnone⟩ :=
        exists_first ⟨v, List.mem_reverse.2 hv, hneeds⟩
      have hb : ∀ u ∈ before ++ v :: after, ¬ g.Needs b u := by
        rw [← hline]
        exact fun u hu => (hfresh hb).2 u (List.mem_reverse.1 hu)
      refine MetBefore.append ⟨before, v, after, hline, hav, fun u hu =>
        ?_, fun hbv => ?_⟩ _
      · exact ⟨hnone u hu, hb u (List.mem_append_left _ hu)⟩
      · exact absurd hbv (hb v (by simp))

theorem walk (h : w.Orders g changed) :
    (g.walk g.index changed w).Orders g changed ∧
      (g.walk g.index changed w).waiting = [] :=
  Graph.walk_keeps (P := fun w => w.Orders g changed)
    (fun _ h => ⟨h.gathers.line, h.gathers.nodup⟩) (fun _ _ _ h hw => h.visit hw) h

theorem explored (h : w.Orders g changed) (hend : w.waiting = []) :
    Explored g.Needs changed w.affected := by
  have hline := Walk.visited_reverse h.gathers.line hend
  refine ⟨h.gathers.nodup, fun f hf => ?_, fun v hv f hf => ?_, ?_⟩
  · exact h.gathers.sound f (List.mem_append_right _ hf)
  · rw [← hline, List.mem_reverse] at hv
    exact h.gathers.closed v hv f hf
  · rw [← hline]
    exact h.order

end Orders

end Walk

namespace Graph

variable {g : Graph} {changes : List Text}

theorem explored_impact (g : Graph) (changes : List Text) :
    Explored g.Needs (g.impact changes).changed (g.impact changes).affected := by
  have hstart :=
    Walk.Orders.start (g := g) (Text.nodup_distinct (changes.map g.canonical))
  exact hstart.walk.1.explored hstart.walk.2

/-- Of a file that is touched a lookup finds what names it. -/
theorem Keyed.needs_iff (h : g.Keyed) (hv : v ∈ (g.impact changes).touched) :
    g.Needs f v ↔ g.DependsOn f v := by
  rw [Needs, h.canonical_of_mem_touched hv]

/-- The affected files are listed breadth first, along what lookups find; and along the
edges themselves where facts are filed under ids. -/
theorem breadthFirst_of_impact (g : Graph) (changes : List Text) :
    let i := g.impact changes
    BreadthFirst g.Needs i.changed i.affected ∧
      (g.Keyed → BreadthFirst g.DependsOn i.changed i.affected) := by
  intro i
  have hexplored := g.explored_impact changes
  refine ⟨hexplored.breadthFirst, fun h => Explored.breadthFirst ?_⟩
  exact hexplored.congr fun v hv f => h.needs_iff hv

/-- Two files that depend on each other, and one more that depends on each of them. -/
def rungs : Graph :=
  let top : Graph := { root := Path.canonical "/".toList "p".toList ['.'] }
  (((top.put "one" ["two"]).put "two" ["one", "gone"]).put "x" ["one"]).put "y" ["two"]

/-- The first change comes first, so what depends on it comes before a file with a smaller
name. -/
theorem breadthFirst_of_rungs :
    let i := rungs.impact ["two".toList, "./one".toList]
    rungs.Keyed ∧ BreadthFirst rungs.DependsOn i.changed i.affected ∧
      "/p/y".toList ∈ i.affected ∧ "/p/x".toList ∈ i.affected ∧
      i.affected.idxOf "/p/y".toList < i.affected.idxOf "/p/x".toList := by
  intro i
  have hkeyed : rungs.Keyed :=
    Made.keyed ((((Made.empty _ _).put _ _).put _ _).put _ _ |>.put _ _)
  have hbreadth := (breadthFirst_of_impact rungs ["two".toList, "./one".toList]).2 hkeyed
  have hchanged : i.changed = ["/p/two".toList, "/p/one".toList] := by decide
  have hrung {f c : Text} (hf : f ∉ i.changed) (hc : c ∈ i.changed) (hedge :
      (f, c) ∈ rungs.edges)
        (hfirst : ∀ q ∈ i.changed, (f, q) ∈ rungs.edges → i.changed.idxOf c ≤
          i.changed.idxOf q) :
        f ∈ i.affected ∧ Away rungs.DependsOn i.changed 1 f ∧
          FirstDependency rungs.DependsOn i.changed i.affected 0 f c := by
    have hstep : rungs.DependsOn f c := dependsOn_iff.2 hedge
    have haway : Away rungs.DependsOn i.changed 1 f :=
      away_succ (within_succ.2 (.inr ⟨c, hstep, within_zero.2 hc⟩)) fun h =>
        hf (within_zero.1 h)
    have htouched : f ∈ i.touched :=
      (rungs.explored_impact _).closed c (List.mem_append_left _ hc) f
      ((hkeyed.needs_iff (List.mem_append_left _ hc)).2 hstep)
    refine ⟨(List.mem_append.1 htouched).resolve_left hf, haway, hstep, hc,
      away_zero hc, ?_⟩
    exact fun q hq hsees _ => hfirst q hq (dependsOn_iff.1 hsees)
  rw [hchanged] at hrung hbreadth
  obtain ⟨hy, hyaway, hyfirst⟩ :=
    @hrung "/p/y".toList "/p/two".toList (by decide) (by decide)
    (by decide) (by decide)
  obtain ⟨hx, hxaway, hxfirst⟩ :=
    @hrung "/p/x".toList "/p/one".toList (by decide) (by decide)
    (by decide) (by decide)
  have hlt :=
    (hbreadth.order 0 _ hy _ hx hyaway hxaway _ _ hyfirst hxfirst).2 (.inl (by decide))
  exact ⟨hkeyed, hchanged ▸ hbreadth, hy, hx, hlt⟩

end Graph

end ImpactGraph
