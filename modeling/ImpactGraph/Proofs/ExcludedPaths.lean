import ImpactGraph.Proofs.DescribedNames
import ImpactGraph.Exclusion
import ImpactGraph.Text.Lemmas

/-!
# Which paths a pattern excludes

Each of the three kinds of patterns is a language that can be said without the
search. A glob for file names describes the last name of a path (`Describes`), the
pieces of another pattern with stars stand in the path in order with gaps that no
line feed is in (`Spaced`), and a pattern without a star is a part of the path.
`excludes_iff` says that the searches find exactly these.
-/

namespace ImpactGraph.Exclusion

open Text

variable {t piece pattern path : Text} {pieces patterns : List Text} {test : Text → Bool}

/-! ## Pieces in order -/

/-- The pieces one after another, with a gap between neighbours that holds no line
feed. -/
inductive Spaced : List Text → Text → Prop where
  | last (piece : Text) : Spaced [piece] piece
  | cons {next : Text} {pieces : List Text} {t : Text} (piece gap : Text) : '\n' ∉ gap →
      Spaced (next :: pieces) t → Spaced (piece :: next :: pieces) (piece ++ gap ++ t)

theorem later_iff : later test t = true ↔ ∃ front rest, t = front ++ rest ∧
    test rest = true := by
  induction t with
  | nil =>
      rw [later]
      refine ⟨fun h => ⟨[], [], rfl, h⟩, fun ⟨front, rest, heq, h⟩ => ?_⟩
      rwa [(List.nil_eq_append_iff.1 heq).2] at h
  | cons c t ih =>
      rw [later, Bool.or_eq_true, ih]
      constructor
      · rintro (h | ⟨front, rest, rfl, h⟩)
        · exact ⟨[], c :: t, rfl, h⟩
        · exact ⟨c :: front, rest, rfl, h⟩
      · rintro ⟨front, rest, heq, h⟩
        cases front with
        | nil => exact .inl (heq ▸ h)
        | cons d front => exact .inr ⟨front, rest, (List.cons.inj heq).2, h⟩

theorem laterOnLine_iff : laterOnLine test t = true ↔
    ∃ gap rest, t = gap ++ rest ∧ '\n' ∉ gap ∧ test rest = true := by
  induction t with
  | nil =>
      rw [laterOnLine]
      refine ⟨fun h => ⟨[], [], rfl, List.not_mem_nil, h⟩,
        fun ⟨gap, rest, heq, _, h⟩ => ?_⟩
      rwa [(List.nil_eq_append_iff.1 heq).2] at h
  | cons c t ih =>
      rw [laterOnLine, Bool.or_eq_true, Bool.and_eq_true, decide_eq_true_eq, ih]
      constructor
      · rintro (h | ⟨hc, gap, rest, rfl, hgap, h⟩)
        · exact ⟨[], c :: t, rfl, List.not_mem_nil, h⟩
        · exact ⟨c :: gap, rest, rfl, by simp [hgap, Ne.symm hc], h⟩
      · rintro ⟨gap, rest, heq, hgap, h⟩
        cases gap with
        | nil => exact .inl (heq ▸ h)
        | cons d gap =>
            obtain ⟨rfl, rfl⟩ := List.cons.inj heq
            obtain ⟨hd, hgap⟩ := not_or.1 (mt List.mem_cons.2 hgap)
            exact .inr ⟨Ne.symm hd, gap, rest, rfl, hgap, h⟩

theorem spaced_cons_iff {next : Text} : Spaced (piece :: next :: pieces) t ↔
    ∃ gap rest, t = piece ++ gap ++ rest ∧ '\n' ∉ gap ∧ Spaced (next :: pieces) rest := by
  constructor
  · intro h
    cases h with
    | cons _ gap hgap h => exact ⟨gap, _, rfl, hgap, h⟩
  · rintro ⟨gap, rest, rfl, hgap, h⟩
    exact .cons piece gap hgap h

theorem startsWithPieces_iff (hne : pieces ≠ []) : startsWithPieces pieces t = true ↔
    ∃ middle rest, t = middle ++ rest ∧ Spaced pieces middle := by
  induction pieces generalizing t with
  | nil => exact absurd rfl hne
  | cons piece pieces ih =>
      rw [startsWithPieces, Bool.and_eq_true, startsWith_iff]
      cases pieces with
      | nil =>
          constructor
          · rintro ⟨⟨rest, rfl⟩, -⟩
            exact ⟨piece, rest, rfl, .last piece⟩
          · rintro ⟨middle, rest, rfl, h⟩
            cases h with
            | last => exact ⟨⟨rest, rfl⟩, rfl⟩
      | cons next pieces =>
          rw [Bool.or_eq_true, or_iff_right (by simp), laterOnLine_iff]
          constructor
          · rintro ⟨⟨rest, rfl⟩, gap, behind, heq, hgap, h⟩
            obtain ⟨middle, behind, rfl, hmiddle⟩ := (ih (by simp)).1 h
            rw [List.drop_left] at heq
            subst heq
            exact ⟨piece ++ gap ++ middle, behind, by simp, .cons piece gap hgap hmiddle⟩
          · rintro ⟨middle, rest, rfl, h⟩
            obtain ⟨gap, behind, rfl, hgap, hbehind⟩ := spaced_cons_iff.1 h
            refine ⟨⟨gap ++ behind ++ rest, by simp⟩, gap, behind ++ rest, ?_, hgap, ?_⟩
            · simp
            · exact (ih (by simp)).2 ⟨behind, rest, rfl, hbehind⟩

theorem holdsPieces_iff (hne : pieces ≠ []) : holdsPieces pieces t = true ↔
    ∃ front middle behind, t = front ++ middle ++ behind ∧ Spaced pieces middle := by
  rw [holdsPieces, later_iff]
  constructor
  · rintro ⟨front, rest, rfl, h⟩
    obtain ⟨middle, behind, rfl, hmiddle⟩ := (startsWithPieces_iff hne).1 h
    exact ⟨front, middle, behind, by simp, hmiddle⟩
  · rintro ⟨front, middle, behind, rfl, hmiddle⟩
    exact ⟨front, middle ++ behind, by simp,
      (startsWithPieces_iff hne).2 ⟨middle, behind, rfl, hmiddle⟩⟩

/-! ## Patterns -/

/-- A pattern selects a path, when sets in globs stand for the characters that `admits`
names. -/
inductive Selects (admits : Text → Char → Prop) (pattern path : Text) : Prop where
  | name : '*' ∈ pattern → '.' ∈ pattern →
      Glob.Describes admits pattern (Path.baseName path) →
      Selects admits pattern path
  | pieces {front middle behind : Text} : '*' ∈ pattern → '.' ∉ pattern →
      path = front ++ middle ++ behind → Spaced (split '*' pattern) middle →
      Selects admits pattern path
  | part : '*' ∉ pattern → pattern ≠ [] → pattern <:+: path → Selects admits pattern path

theorem matchesPattern_iff :
    matchesPattern pattern path = true ↔ Selects Glob.Admits pattern path := by
  by_cases hstar : '*' ∈ pattern
  · by_cases hdot : '.' ∈ pattern
    · rw [matchesPattern, if_pos hstar, if_pos hdot, Glob.describes_iff]
      refine ⟨.name hstar hdot, fun h => ?_⟩
      cases h with
      | name _ _ h => exact h
      | pieces _ hno => exact absurd hdot hno
      | part hno => exact absurd hstar hno
    · rw [matchesPattern, if_pos hstar, if_neg hdot, holdsPieces_iff (split_ne_nil _ _)]
      constructor
      · rintro ⟨front, middle, behind, hpath, hmiddle⟩
        exact .pieces hstar hdot hpath hmiddle
      · intro h
        cases h with
        | name _ hyes => exact absurd hyes hdot
        | pieces _ _ hpath hmiddle => exact ⟨_, _, _, hpath, hmiddle⟩
        | part hno => exact absurd hstar hno
  · rw [matchesPattern, if_neg hstar, Bool.and_eq_true, decide_eq_true_eq, contains_iff]
    refine ⟨fun ⟨hne, hpart⟩ => .part hstar hne hpart, fun h => ?_⟩
    cases h with
    | name hyes => exact absurd hyes hstar
    | pieces hyes => exact absurd hyes hstar
    | part _ hne hpart => exact ⟨hne, hpart⟩

/-- A path is excluded exactly when one of the patterns selects it. -/
theorem excludes_iff (patterns : List Text) (path : Text) :
    excludes patterns path = true ↔ ∃ pattern ∈ patterns,
      Selects Glob.Admits pattern path := by
  rw [excludes, List.any_eq_true]
  exact exists_congr fun _ => and_congr_right fun _ => matchesPattern_iff

/-- A set is not always read as it is written: behind `b-a`, which holds nothing, the
exclamation mark begins a complement. -/
theorem excluded_by_unwritten_complement :
    excludes ["*.[b-a!c]".toList] "x.y".toList = true ∧
      ¬ ∃ pattern ∈ ["*.[b-a!c]".toList], Selects Glob.Holds pattern "x.y".toList := by
  refine ⟨by decide +kernel, ?_⟩
  rintro ⟨pattern, hmem, h⟩
  obtain rfl := List.mem_singleton.1 hmem
  cases h with
  | name _ _ h =>
      have hglob : "*.[b-a!c]".toList = '*' :: '.' :: '[' ::
          ("b-a!c".toList ++ [']']) := by decide
      have hname : Path.baseName "x.y".toList = ['x', '.', 'y'] := by decide
      have hset : Glob.IsSetBody "b-a!c".toList := .plain (by decide) (by decide)
      rw [hglob, hname, Glob.describes_star_iff] at h
      obtain ⟨ending, hending, h⟩ := h
      rw [Glob.describes_literal_iff (by decide) (by decide) fun he =>
        absurd he (by decide)] at h
      obtain ⟨last, rfl, h⟩ := h
      obtain ⟨rest, ⟨d, rfl, hholds⟩, hrest⟩ := (Glob.describes_set_iff hset).1 h
      obtain rfl := Glob.describes_nil_iff.1 hrest
      have hd : ['.', d] = ['.', 'y'] := List.suffix_iff_eq_drop.1 hending
      cases hd
      exact absurd (id hholds : Glob.IsMember "b-a!c".toList 'y') (by decide)
  | pieces _ hdot => exact absurd (by decide) hdot
  | part hstar => exact absurd (by decide) hstar

end ImpactGraph.Exclusion
