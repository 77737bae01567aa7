import ImpactGraph.Text.Basic

/-!
# Distinct and sorted listings

Two operations fix the order of everything that is reported. `distinct` keeps
the first of each text, so it has the members of the list it is given and none
twice. `sort` puts texts in code-point order; that order is total and
antisymmetric, so what a list without repetitions is sorted to depends on its
members alone. That is the reason why a reverse index can be built in any
order and still be read in one.
-/

namespace ImpactGraph.Text

/-! ## Distinct texts -/

theorem addNew_of_mem {seen : List Text} {text : Text} (h : text ∈ seen) :
    addNew seen text = seen := if_pos h

theorem addNew_of_notMem {seen : List Text} {text : Text} (h : text ∉ seen) :
    addNew seen text = seen ++ [text] := if_neg h

theorem mem_addNew {seen : List Text} {text x : Text} :
    x ∈ addNew seen text ↔ x ∈ seen ∨ x = text := by
  unfold addNew
  split
  · next h =>
      constructor
      · exact Or.inl
      · rintro (hx | rfl)
        · exact hx
        · exact h
  · rw [List.mem_append, List.mem_singleton]

theorem nodup_addNew {seen : List Text} (h : seen.Nodup) (text : Text) :
    (addNew seen text).Nodup := by
  unfold addNew
  split
  · exact h
  · next hnew =>
      rw [List.nodup_append]
      refine ⟨h, by simp, fun a ha b hb => ?_⟩
      rw [List.mem_singleton] at hb
      rintro rfl
      exact hnew (hb ▸ ha)

theorem mem_foldl_addNew {texts seen : List Text} {x : Text} :
    x ∈ texts.foldl addNew seen ↔ x ∈ seen ∨ x ∈ texts := by
  induction texts generalizing seen with
  | nil => simp
  | cons text texts ih => rw [List.foldl_cons, ih, mem_addNew, List.mem_cons, or_assoc]

theorem nodup_foldl_addNew {texts seen : List Text} (h : seen.Nodup) :
    (texts.foldl addNew seen).Nodup := by
  induction texts generalizing seen with
  | nil => exact h
  | cons text texts ih => exact ih (nodup_addNew h text)

@[simp] theorem mem_distinct {texts : List Text} {x : Text} :
    x ∈ distinct texts ↔ x ∈ texts := by
  rw [distinct, mem_foldl_addNew]
  simp

theorem nodup_distinct (texts : List Text) : (distinct texts).Nodup :=
  nodup_foldl_addNew List.nodup_nil

theorem foldl_addNew_of_nodup {texts seen : List Text} (h : (seen ++ texts).Nodup) :
    texts.foldl addNew seen = seen ++ texts := by
  induction texts generalizing seen with
  | nil => exact (List.append_nil seen).symm
  | cons text texts ih =>
      have hnew : text ∉ seen := fun hmem =>
        (List.nodup_append.1 h).2.2 text hmem text List.mem_cons_self rfl
      rw [List.append_cons] at h
      rw [List.foldl_cons, addNew_of_notMem hnew, ih h, List.append_assoc,
        List.singleton_append]

theorem distinct_of_nodup {texts : List Text} (h : texts.Nodup) :
    distinct texts = texts :=
  foldl_addNew_of_nodup h

/-- What is put after the texts that were seen: the others, the first of each. -/
theorem foldl_addNew_eq (seen texts : List Text) :
    texts.foldl addNew seen = seen ++ (texts.filter (· ∉ seen)).eraseDups := by
  induction texts generalizing seen with
  | nil => exact (List.append_nil seen).symm
  | cons text texts ih =>
      rw [List.foldl_cons]
      by_cases hmem : text ∈ seen
      · rw [addNew_of_mem hmem, ih, List.filter_cons_of_neg (by simp [hmem])]
      · have hrest : texts.filter (· ∉ seen ++ [text]) =
            (texts.filter (· ∉ seen)).filter fun other => !other == text := by
          rw [List.filter_filter]
          refine List.filter_congr fun other _ => ?_
          by_cases hseen : other ∈ seen <;> by_cases he : other = text <;>
            simp [hseen, he]
        rw [addNew_of_notMem hmem, ih, hrest, List.filter_cons_of_pos (by simp [hmem]),
          List.eraseDups_cons, List.append_assoc, List.singleton_append]

theorem distinct_eq_eraseDups (texts : List Text) : distinct texts = texts.eraseDups := by
  have hall : texts.filter (· ∉ ([] : List Text)) = texts :=
    List.filter_eq_self.2 fun _ _ => by simp
  rw [distinct, foldl_addNew_eq, hall, List.nil_append]

/-! ## Code-point order -/

theorem le_trans {a b c : Text} (hab : le a b = true) (hbc : le b c = true) :
    le a c = true := by
  induction a generalizing b c with
  | nil => rfl
  | cons x a ih =>
      cases b with
      | nil => exact absurd hab (by simp [le])
      | cons y b =>
          cases c with
          | nil => exact absurd hbc (by simp [le])
          | cons z c =>
              simp only [le, Bool.or_eq_true, Bool.and_eq_true,
                decide_eq_true_eq] at hab hbc ⊢
              rcases hab with hxy | ⟨rfl, hab⟩
              · rcases hbc with hyz | ⟨rfl, -⟩
                · exact Or.inl (UInt32.lt_trans hxy hyz)
                · exact Or.inl hxy
              · rcases hbc with hyz | ⟨rfl, hbc⟩
                · exact Or.inl hyz
                · exact Or.inr ⟨rfl, ih hab hbc⟩

theorem le_total (a b : Text) : (le a b || le b a) = true := by
  induction a generalizing b with
  | nil => rfl
  | cons x a ih =>
      cases b with
      | nil => rfl
      | cons y b =>
          have hab := ih b
          simp only [le, Bool.or_eq_true, Bool.and_eq_true, decide_eq_true_eq] at hab ⊢
          by_cases hlt : x.val < y.val
          · exact Or.inl (Or.inl hlt)
          · by_cases hgt : y.val < x.val
            · exact Or.inr (Or.inl hgt)
            · have heq : x = y :=
                Char.le_antisymm (UInt32.not_lt.1 hgt) (UInt32.not_lt.1 hlt)
              subst heq
              exact hab.imp (fun h => Or.inr ⟨rfl, h⟩) (fun h => Or.inr ⟨rfl, h⟩)

theorem le_antisymm {a b : Text} (hab : le a b = true) (hba : le b a = true) : a = b := by
  induction a generalizing b with
  | nil =>
      cases b with
      | nil => rfl
      | cons y b => exact absurd hba (by simp [le])
  | cons x a ih =>
      cases b with
      | nil => exact absurd hab (by simp [le])
      | cons y b =>
          simp only [le, Bool.or_eq_true, Bool.and_eq_true, decide_eq_true_eq] at hab hba
          rcases hab with hxy | ⟨rfl, hab⟩
          · rcases hba with hyx | ⟨rfl, -⟩
            · exact absurd hyx (UInt32.lt_asymm hxy)
            · exact absurd hxy (UInt32.lt_irrefl _)
          · rcases hba with hyx | ⟨-, hba⟩
            · exact absurd hyx (UInt32.lt_irrefl _)
            · rw [ih hab hba]

/-! ## Sorted texts -/

@[simp] theorem mem_sort {texts : List Text} {x : Text} : x ∈ sort texts ↔ x ∈ texts :=
  List.mem_mergeSort

theorem sort_pairwise (texts : List Text) :
    (sort texts).Pairwise (fun a b => le a b = true) :=
  @List.pairwise_mergeSort _ le (fun _ _ _ => le_trans) le_total texts

theorem nodup_sort {texts : List Text} : (sort texts).Nodup ↔ texts.Nodup :=
  (List.mergeSort_perm texts le).nodup_iff

/-- What a list without repetitions is sorted to depends on its members alone. -/
theorem sort_eq_of_mem_iff {a b : List Text} (ha : a.Nodup) (hb : b.Nodup)
    (h : ∀ x, x ∈ a ↔ x ∈ b) : sort a = sort b := by
  have hperm : (sort a).Perm (sort b) :=
    (List.perm_ext_iff_of_nodup (nodup_sort.2 ha) (nodup_sort.2 hb)).2 fun x => by
      rw [mem_sort, mem_sort, h x]
  exact hperm.eq_of_pairwise (fun _ _ _ _ => le_antisymm) (sort_pairwise a)
    (sort_pairwise b)

end ImpactGraph.Text
