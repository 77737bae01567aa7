import ImpactGraph.Proofs.CanonicalTargets
import ImpactGraph.Proofs.TextBlocks

/-!
# The module that a module file declares

A module file declares its module by the first line that begins with the word for it,
whatever stands in the file before and after. The pattern says so by a search; here it is
said of the text alone (`Names`), without places and ways, and the two are proved to
agree: where the text has such a line the search ends there, and where it has none the
search comes back empty.

The blanks that a pattern skips are not confined to a line. So the word may be followed by
its name on a later line, and may itself stand below blank lines; `Opening` is stated with
the same freedom.
-/

namespace ImpactGraph

namespace Pattern

variable {p : Pattern} {t before rest : Text} {m : Match}

theorem head?_foundFrom {c : Cursor} (h : p.matchAt c = some m) :
    (p.foundFrom c).head? = some m := by
  have hhere : p.matchAt ⟨c.before, c.offset, c.rest, []⟩ = some m := h
  rw [foundFrom]
  cases hrest : c.rest with
  | nil =>
      rw [hrest] at hhere
      rw [findFrom, if_pos rfl, hhere]
      rfl
  | cons x rest =>
      rw [hrest] at hhere
      rw [findFrom]
      simp only [hhere]
      rfl

/-- A search ends at the first place from which there is a match. -/
theorem find?_of_matchAt (h : t = before ++ rest)
    (hm : p.matchAt ((Cursor.ofText t).past before rest) = some m)
    (hnone : ∀ u v, before = u ++ v → v ≠ [] →
      p.matchAt ((Cursor.ofText t).past u (v ++ rest)) = none) : p.find? t = some m := by
  rw [find?, findAll_eq, foundFrom_past h hnone, head?_foundFrom hm]

/-- A search from which no place has a match comes back empty. -/
theorem find?_eq_none
    (hnone : ∀ u v, t = u ++ v → p.matchAt ((Cursor.ofText t).past u v) = none) :
    p.find? t = none := by
  rw [find?, findAll_eq_nil_of_matchAt hnone]
  rfl

end Pattern

namespace Resolve

open ImpactGraph.Path Text Pattern

/-! ## The line as a text -/

/-- A text that opens with the word for a module, followed by its name. -/
def Opening (t name : Text) : Prop :=
  ∃ pad gap rest, t = pad ++ "module".toList ++ gap ++ name ++ rest ∧
    (∀ c ∈ pad, isBlank c = true) ∧ gap ≠ [] ∧ (∀ c ∈ gap, isBlank c = true) ∧
    name ≠ [] ∧ (∀ c ∈ name, isBlank c = false) ∧ ∀ c ∈ rest.head?, isBlank c = true

/-- A line starts behind a text. -/
def EndsLine (before : Text) : Prop := ∀ c ∈ before.getLast?, c = '\n'

/-- The module that a text declares: the name in the first of its lines that opens with
the word. -/
def Names (content name : Text) : Prop :=
  ∃ before t, content = before ++ t ∧ EndsLine before ∧ Opening t name ∧
    ∀ u v, before = u ++ v → v ≠ [] → EndsLine u → ∀ other, ¬ Opening (v ++ t) other

variable {content name t : Text}

/-- Where some line opens with the word, there is a first one. -/
theorem exists_names {before : Text} (hcontent : content = before ++ t)
    (hline : EndsLine before) (hopening : Opening t name) :
    ∃ first, Names content first := by
  induction hlen : before.length using Nat.strongRecOn generalizing before t name with
  | ind n ih =>
      by_cases hfirst : ∀ u v, before = u ++ v → v ≠ [] → EndsLine u → ∀ other,
        ¬ Opening (v ++ t) other
      · exact ⟨name, before, t, hcontent, hline, hopening, hfirst⟩
      · simp only [Classical.not_forall, Classical.not_not] at hfirst
        obtain ⟨u, v, rfl, hv, hu, other, hother⟩ := hfirst
        refine ih u.length ?_ (hcontent.trans (List.append_assoc _ _ _)) hu hother rfl
        rw [← hlen, List.length_append]
        have := List.length_pos_iff.2 hv
        omega

/-! ## The line as a match -/

theorem takes_moduleLine (h : moduleLine.Takes t) :
    ∃ pad gap name, t = pad ++ "module".toList ++ gap ++ name ∧
      (∀ c ∈ pad, isBlank c = true) ∧
      gap ≠ [] ∧ (∀ c ∈ gap, isBlank c = true) ∧ name ≠ [] ∧ ∀ c ∈ name,
        isBlank c = false := by
  obtain ⟨_, name, rfl,
      ⟨_, gap, rfl, ⟨_, _, rfl, ⟨_, pad, rfl, rfl, hpad⟩, rfl⟩, hgap⟩, hname⟩ := h
  obtain ⟨hgap, hblank⟩ := takes_many1.1 hgap
  obtain ⟨hname, hsolid⟩ := takes_many1.1 hname
  exact ⟨pad, gap, name, rfl, hpad, hgap, hblank, hname, by simpa using hsolid⟩

theorem exists_opening_of_mem_ends {c d : Cursor} (h : d ∈ moduleLine.ends c) :
    (∀ x ∈ c.before, x = '\n') ∧ ∃ name, Opening c.rest name := by
  constructor
  · have hline : StartsLine moduleLine := startsLine_of_front rfl
    exact hline c d h
  · obtain ⟨taken, ⟨hrest, -⟩, htakes⟩ := takes_of_mem_ends h
    obtain ⟨pad, gap, name, rfl, hpad, hgap, hblank, hname, hsolid⟩ :=
      takes_moduleLine htakes
    -- What the way left of the name is behind it.
    refine ⟨name ++ d.rest.takeWhile (!isBlank ·), pad, gap,
      d.rest.dropWhile (!isBlank ·), ?_, hpad, hgap, hblank, by
        simp [hname], fun x hx => ?_, fun x hx => ?_⟩
    · rw [hrest]
      simp
    · rcases List.mem_append.1 hx with hx | hx
      · exact hsolid x hx
      · simpa using List.all_eq_true.1 List.all_takeWhile x hx
    · simpa using head_dropWhile (!isBlank ·) d.rest x hx

theorem exists_first_of_opening {c : Cursor} (hline : ∀ x ∈ c.before, x = '\n')
    (h : Opening c.rest name) :
    ∃ d, moduleLine.first some c = some d ∧ (c.matchTo d).part? .name = some name := by
  obtain ⟨pad, gap, rest, hrest, hpad, hgap, hblank, hname, hsolid, hstop⟩ := h
  obtain ⟨x, gap, rfl⟩ := List.exists_cons_of_ne_nil hgap
  obtain ⟨y, name, rfl⟩ := List.exists_cons_of_ne_nil hname
  obtain ⟨hx, hgap⟩ := List.forall_mem_cons.1 hblank
  obtain ⟨hy, hname⟩ := List.forall_mem_cons.1 hsolid
  have hparts : c.rest =
      pad ++ ("module".toList ++ (x :: gap ++ (y :: name ++ rest))) := by
    rw [hrest]
    simp
  have hlater : ∀ z ∈ rest.head?, (!isBlank z) = false := fun z hz => by
    rw [hstop z hz]; rfl
  have hsolid : ∀ z ∈ name, (!isBlank z) = true := fun z hz => by rw [hname z hz]; rfl
  simp only [moduleLine, first_append]
  apply Exists.intro
  constructor
  · apply first_lineStart hline
    apply first_many hparts hpad (by rintro z ⟨⟩; decide)
    apply first_word Cursor.past_rest
    apply first_many1 Cursor.past_rest hx hgap (by rintro z ⟨⟩; exact hy)
    rw [first_keep]
    exact first_many1 Cursor.past_rest (by rw [hy]; rfl) hsolid hlater rfl
  · exact part?_of_lookup rfl (Cursor.spans_past Cursor.past_rest)

/-! ## The file -/

section Search

variable {u v : Text}

theorem matchAt_eq_none_of_not_opening
    (h : EndsLine u → ∀ other, ¬ Opening v other) (t : Text) :
    moduleLine.matchAt ((Cursor.ofText t).past u v) = none := by
  refine matchAt_eq_none fun d hd => ?_
  obtain ⟨hline, other, hother⟩ := exists_opening_of_mem_ends hd
  refine h (fun x hx => hline x ?_) other hother
  show u.getLast?.or none = some x
  rw [Option.or_none]
  exact hx

theorem find?_of_names (h : Names content name) :
    (moduleLine.find? content).bind (·.part? .name) = some name := by
  obtain ⟨before, t, hcontent, hline, hopening, hfirst⟩ := h
  have hbefore : ∀ x ∈ ((Cursor.ofText content).past before t).before, x = '\n' := by
    show ∀ x ∈ before.getLast?.or none, x = '\n'
    rw [Option.or_none]
    exact hline
  obtain ⟨d, hd, hpart⟩ := exists_first_of_opening hbefore hopening
  rw [find?_of_matchAt hcontent (matchAt_of_first hd) fun u v huv hv =>
    matchAt_eq_none_of_not_opening (hfirst u v huv hv) content]
  exact hpart

theorem find?_eq_none_of_not_names (h : ∀ name, ¬ Names content name) :
    moduleLine.find? content = none := by
  refine find?_eq_none fun u v huv =>
    matchAt_eq_none_of_not_opening (fun hline other hother => ?_) content
  obtain ⟨first, hfirst⟩ := exists_names huv hline hother
  exact h first hfirst

end Search

/-- The module declared for a project: by the module file below the root, or none when
there is no such file or it does not name one. -/
inductive Declares (w : Workspace) (root : Text) : Option Text → Prop
  | absent : w.readText (join root "go.mod".toList) = .error .missing →
      Declares w root none
  | silent {content : Text} : w.readText (join root "go.mod".toList) = .ok content →
    (∀ name, ¬ Names content name) → Declares w root none
  | named {content name : Text} : w.readText (join root "go.mod".toList) = .ok content →
    Names content name → Declares w root (some name)

variable {w : Workspace} {root : Text} {declared : Option Text}

theorem goModule_of_declares (h : Declares w root declared) :
    goModule w root = .ok declared := by
  unfold goModule
  cases h with
  | absent hread => simp only [hread]
  | silent hread hnone =>
      simp only [hread, find?_eq_none_of_not_names hnone, Option.bind_none]
  | named hread hname => simp only [hread, find?_of_names hname]

/-- A module file that can be read or is missing settles which module is declared. -/
theorem exists_declares (h : w.readText (join root "go.mod".toList) = .error .missing ∨
    ∃ content, w.readText (join root "go.mod".toList) = .ok content) :
    ∃ declared, Declares w root declared := by
  rcases h with hmissing | ⟨content, hread⟩
  · exact ⟨none, .absent hmissing⟩
  · by_cases hname : ∃ name, Names content name
    · obtain ⟨name, hname⟩ := hname
      exact ⟨some name, .named hread hname⟩
    · exact ⟨none, .silent hread fun name h => hname ⟨name, h⟩⟩

end Resolve

end ImpactGraph
