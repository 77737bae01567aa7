import ImpactGraph.Text.Basic

/-!
# Laws of text

What the operations on text leave of it: trimming and cutting give parts of the text they
are given, and taking a text apart into fields loses no character that does not separate
them.
-/

namespace ImpactGraph.Text

theorem dropWhileEnd_isPrefix (p : Char → Bool) (t : Text) : dropWhileEnd p t <+: t := by
  simpa [dropWhileEnd] using
    List.reverse_prefix.2 (List.dropWhile_suffix p (l := t.reverse))

theorem trimWhile_sublist (p : Char → Bool) (t : Text) : List.Sublist (trimWhile p t) t :=
  (dropWhileEnd_isPrefix p _).sublist.trans (List.dropWhile_suffix p).sublist

section Ends

variable {p : Char → Bool} {t left right : Text}

theorem head_dropWhile (p : Char → Bool) (t : Text) : ∀ c ∈ (t.dropWhile p).head?,
    p c = false := by
  intro c hc
  have hstop := List.head?_dropWhile_not p t
  rw [Option.mem_def.1 hc] at hstop
  simpa using hstop

theorem dropWhile_pad (hleft : ∀ c ∈ left, p c = true)
    (hhead : ∀ c ∈ t.head?, p c = false) : (left ++ t).dropWhile p = t := by
  rw [List.dropWhile_append_of_pos hleft]
  cases t with
  | nil => rfl
  | cons c t => exact List.dropWhile_cons_of_neg (by simp [hhead c rfl])

theorem takeWhile_append_cons {x : Char} (hleft : ∀ c ∈ left, p c = true)
    (hx : p x = false) : (left ++ x :: t).takeWhile p = left := by
  rw [List.takeWhile_append_of_pos hleft, List.takeWhile_cons_of_neg (by simp [hx]),
    List.append_nil]

theorem last_dropWhileEnd (p : Char → Bool) (t : Text) :
    ∀ c ∈ (dropWhileEnd p t).getLast?, p c = false := by
  rw [dropWhileEnd, List.getLast?_reverse]
  exact head_dropWhile p t.reverse

theorem exists_dropWhileEnd_append (p : Char → Bool) (t : Text) :
    ∃ right, t = dropWhileEnd p t ++ right ∧ ∀ c ∈ right, p c = true := by
  refine ⟨(t.reverse.takeWhile p).reverse, ?_, fun c hc => ?_⟩
  · rw [dropWhileEnd, ← List.reverse_append, List.takeWhile_append_dropWhile,
      List.reverse_reverse]
  · exact List.all_eq_true.1 List.all_takeWhile c (List.mem_reverse.1 hc)

theorem dropWhileEnd_pad (hright : ∀ c ∈ right, p c = true)
    (hlast : ∀ c ∈ t.getLast?, p c = false) : dropWhileEnd p (t ++ right) = t := by
  rw [dropWhileEnd, List.reverse_append,
    dropWhile_pad (by simpa using hright) (by rwa [List.head?_reverse]),
    List.reverse_reverse]

end Ends

theorem cut_eq_some {sep t a b : Text} (h : cut sep t = some (a, b)) :
    t = a ++ sep ++ b := by
  induction t generalizing a with
  | nil => simp only [cut] at h; split at h <;> simp_all
  | cons d rest ih =>
    simp only [cut] at h
    split at h
    · rename_i hp
      obtain ⟨rfl, rfl⟩ := Prod.mk.inj (Option.some.inj h)
      obtain ⟨r, hr⟩ := List.isPrefixOf_iff_prefix.1 hp
      simp [← hr]
    · obtain ⟨parts, hparts, e⟩ := Option.map_eq_some_iff.1 h
      obtain ⟨rfl, rfl⟩ := Prod.mk.inj e
      simp [ih (a := parts.1) (by rw [hparts])]

theorem cutLast_eq_some {sep t a b : Text} (h : cutLast sep t = some (a, b)) :
    t = a ++ sep ++ b := by
  obtain ⟨parts, hparts, e⟩ := Option.map_eq_some_iff.1 h
  obtain ⟨rfl, rfl⟩ := Prod.mk.inj e
  have := congrArg List.reverse (cut_eq_some (a := parts.1) (b := parts.2) hparts)
  simpa using this

theorem startsWith_iff {part t : Text} : startsWith t part = true ↔ part <+: t :=
  List.isPrefixOf_iff_prefix

theorem isSome_cut {part t : Text} : (cut part t).isSome = true ↔ part <:+: t := by
  induction t with
  | nil =>
      rw [cut, List.infix_nil]
      split <;> simp [*]
  | cons c t ih =>
      rw [cut, List.infix_cons_iff, ← List.isPrefixOf_iff_prefix]
      split
      · next h => exact iff_of_true rfl (.inl h)
      · next h => rw [Option.isSome_map, ih, or_iff_right h]

theorem contains_iff {part t : Text} : contains part t = true ↔ part <:+: t := isSome_cut

theorem count_join_single (sep c : Char) (hc : c ≠ sep) (pieces : List Text) :
    (join [sep] pieces).count c = pieces.flatten.count c := by
  induction pieces with
  | nil => simp [join]
  | cons p ps ih =>
    cases ps with
    | nil => simp [join]
    | cons q qs =>
      have : (sep == c) = false := by simpa using fun h => hc h.symm
      simp only [join, List.count_append, ih, List.flatten_cons, List.count_cons,
        List.count_nil, this]
      simp

theorem count_fields_le (c : Char) (p : Char → Bool) (t : Text) :
    (fields p t).flatten.count c ≤ t.count c := by
  have split (d : Char) (s : Text) : (d :: s).count c = [d].count c + s.count c := by
    rw [← List.count_append]; rfl
  fun_induction fields p t with
  | case1 => simp
  | case2 d rest _ ih => exact Nat.le_trans ih List.count_le_count_cons
  | case3 d _ => simp
  | case4 d _ e rest _ ih =>
    rw [List.flatten_cons, List.count_append, split d (e :: rest)]
    omega
  | case5 d _ e rest _ h ih =>
      simp only [h]; rw [List.flatten_cons, List.count_append, split d (e :: rest)]; simp
  | case6 d _ e rest _ first others h ih =>
    simp only [h]
    rw [h, List.flatten_cons, List.count_append] at ih
    rw [List.flatten_cons, List.count_append, split d (e :: rest), split d first]
    omega

end ImpactGraph.Text
