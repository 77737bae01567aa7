import ImpactGraph.Proofs.TextParts

/-!
# Words and the blanks between them

The words of a text are what is left between separators, as long as something
is (`fields_eq`), so a separator cuts them: the words of two parts with one
between are the words of the one and of the other. Which characters separate
does not matter for that; the law serves for blanks as for everything that is
not a letter.

A text is set in single spaces when its words are put back together. Blanks
around a comma may then be gone or not, but nothing else is left open, and a
list of names does not see them. So a list of names set in single spaces is the
list of its entries, each set in single spaces (`names_singleSpaced`).
-/

namespace ImpactGraph.Text

/-! ## Words -/

section Fields

variable {p : Char → Bool} {c x : Char} {a b t word : Text}

/-- A character joins the word that it stands before. -/
theorem fields_cons_glue (hc : p c = false) (hx : p x = false) :
    ∃ first others, fields p (x :: t) = first :: others ∧
      fields p (c :: x :: t) = (c :: first) :: others := by
  have hx : ¬ p x = true := by simp [hx]
  have hne : fields p (x :: t) ≠ [] := by
    rw [fields.eq_def]
    simp only [if_neg hx]
    repeat' split
    all_goals exact List.cons_ne_nil _ _
  obtain ⟨first, others, hfields⟩ := List.exists_cons_of_ne_nil hne
  refine ⟨first, others, hfields, ?_⟩
  rw [fields, if_neg (by simp [hc])]
  simp only [if_neg hx, hfields]

theorem fields_cons_of_pos (hx : p x = true) : fields p (x :: t) = fields p t := by
  rw [fields.eq_def]
  exact if_pos hx

theorem fields_cons_sep (hc : p c = false) (hx : p x = true) :
    fields p (c :: x :: t) = [c] :: fields p t := by
  rw [← @fields_cons_of_pos p x t hx, fields, if_neg (by simp [hc])]
  exact if_pos hx

theorem fields_eq (p : Char → Bool) (t : Text) :
    fields p t = (t.splitOnP p).filter (· ≠ []) := by
  induction t with
  | nil => rfl
  | cons c t ih =>
      rw [List.splitOnP_cons_eq_if_modifyHead]
      cases hc : p c with
      | true =>
          rw [fields_cons_of_pos hc, ih]
          rfl
      | false =>
          cases t with
          | nil =>
              rw [fields.eq_def]
              simp [hc]
          | cons x t =>
              rw [List.splitOnP_cons_eq_if_modifyHead] at ih ⊢
              cases hx : p x with
              | true =>
                  rw [hx, fields_cons_of_pos hx] at ih
                  rw [fields_cons_sep hc hx, ih]
                  rfl
              | false =>
                  obtain ⟨first, others, hfields, hglue⟩ :=
                    @fields_cons_glue p c x t hc hx
                  obtain ⟨piece, pieces, hsplit⟩ :=
                    List.exists_cons_of_ne_nil (List.splitOnP_ne_nil p t)
                  rw [hx, hsplit, hfields] at ih
                  obtain ⟨rfl, rfl⟩ := List.cons.inj ih
                  rw [hglue, hsplit]
                  rfl

/-- A separator cuts the words around it. -/
theorem fields_append_cons (hx : p x = true) :
    fields p (a ++ x :: b) = fields p a ++ fields p b := by
  rw [fields_eq, List.splitOnP_append_cons a b hx, List.filter_append,
    ← fields_eq, ← fields_eq]

theorem fields_of_forall_neg (h : ∀ c ∈ t, p c = false) (hne : t ≠ []) :
    fields p t = [t] := by
  rw [fields_eq, List.splitOnP_eq_singleton h]
  exact List.filter_cons_of_pos (by simpa using hne)

/-- A word in front of a separator or at the end stands for itself. -/
theorem fields_append (h : ∀ c ∈ word, p c = false) (hne : word ≠ [])
    (hstop : ∀ x ∈ t.head?, p x = true) : fields p (word ++ t) = word :: fields p t := by
  cases t with
  | nil =>
      rw [List.append_nil, fields_of_forall_neg h hne]
      rfl
  | cons x t =>
      have hx : p x = true := hstop x rfl
      rw [fields_append_cons hx, fields_of_forall_neg h hne, fields_cons_of_pos hx,
        List.singleton_append]

theorem fields_pad (ha : ∀ c ∈ a, p c = true) : fields p (a ++ t) = fields p t := by
  induction a with
  | nil => rfl
  | cons x a ih =>
      obtain ⟨hx, ha⟩ := List.forall_mem_cons.1 ha
      rw [List.cons_append, fields_cons_of_pos hx, ih ha]

theorem fields_of_forall_pos (h : ∀ c ∈ t, p c = true) : fields p t = [] := by
  rw [← List.append_nil t, fields_pad h]
  rfl

theorem fields_append_pad (hb : ∀ c ∈ b, p c = true) :
    fields p (a ++ b) = fields p a := by
  cases b with
  | nil => rw [List.append_nil]
  | cons x b =>
      obtain ⟨hx, hb⟩ := List.forall_mem_cons.1 hb
      rw [fields_append_cons hx, fields_of_forall_pos hb, List.append_nil]

theorem fields_join {pieces : List Text} (hx : p x = true) :
    fields p (join [x] pieces) = pieces.flatMap (fields p) := by
  induction pieces with
  | nil => rfl
  | cons piece pieces ih =>
      cases pieces with
      | nil => exact (List.append_nil _).symm
      | cons next pieces =>
          have hjoin : join [x] (piece :: next :: pieces) =
              piece ++ x :: join [x] (next :: pieces) :=
            List.append_assoc _ _ _
          rw [hjoin, fields_append_cons hx, ih]
          rfl

/-- A text without separators is a word wherever separators are around it. -/
theorem mem_fields_between (hword : ∀ c ∈ word, p c = false) (hne : word ≠ [])
    (ha : ∀ x ∈ a.getLast?, p x = true) (hb : ∀ x ∈ b.head?, p x = true) :
    word ∈ fields p (a ++ word ++ b) := by
  have hmem : word ∈ fields p (word ++ b) := by
    rw [fields_append hword hne hb]
    exact List.mem_cons_self
  rw [List.append_assoc]
  rcases List.eq_nil_or_concat a with rfl | ⟨a, x, rfl⟩
  · exact hmem
  · have hx : p x = true := ha x (by simp)
    rw [List.concat_eq_append, List.append_assoc, List.singleton_append,
      fields_append_cons hx]
    exact List.mem_append_right _ hmem

/-- A word is not empty, and no separator is in it. -/
theorem of_mem_fields (h : word ∈ fields p t) : word ≠ [] ∧ ∀ c ∈ word, c ∈ t ∧
    p c = false := by
  induction t generalizing word with
  | nil => exact absurd h List.not_mem_nil
  | cons c t ih =>
      have hmore {word : Text} (hword : word ∈ fields p t) :
          word ≠ [] ∧ ∀ y ∈ word, y ∈ c :: t ∧ p y = false := by
        obtain ⟨hne, hall⟩ := ih hword
        exact ⟨hne, fun y hy => ⟨List.mem_cons_of_mem c (hall y hy).1, (hall y hy).2⟩⟩
      cases hc : p c with
      | true => exact hmore (fields_cons_of_pos hc ▸ h)
      | false =>
          have hone : ∀ y ∈ [c], y ∈ c :: t ∧ p y = false := by simp [hc]
          cases t with
          | nil =>
              rw [fields_of_forall_neg (by simp [hc]) (List.cons_ne_nil c []),
                List.mem_singleton] at h
              subst h
              exact ⟨List.cons_ne_nil c [], hone⟩
          | cons x t =>
              cases hx : p x with
              | true =>
                  rw [fields_cons_sep hc hx] at h
                  rcases List.mem_cons.1 h with rfl | h
                  · exact ⟨List.cons_ne_nil _ _, hone⟩
                  · exact hmore ((fields_cons_of_pos hx).symm ▸ h)
              | false =>
                  obtain ⟨first, others, hfields, hglue⟩ :=
                    @fields_cons_glue p c x t hc hx
                  rw [hglue] at h
                  rcases List.mem_cons.1 h with rfl | h
                  · obtain ⟨-, hfirst⟩ := @hmore first (hfields ▸ List.mem_cons_self)
                    exact ⟨List.cons_ne_nil _ _,
                      List.forall_mem_cons.2 ⟨hone c (by simp), hfirst⟩⟩
                  · exact hmore (hfields ▸ List.mem_cons_of_mem first h)

end Fields

/-! ## Single spaces -/

/-- The space between a word and those of a text behind it. -/
def spaceBefore (t : Text) : Text :=
  if t.head?.any isBlank = true ∧ singleSpaced t ≠ [] then [' '] else []

section SingleSpaced

variable {a b s t : Text} {pieces : List Text} {c x : Char}

theorem join_cons (sep piece : Text) (h : pieces ≠ []) :
    join sep (piece :: pieces) = piece ++ sep ++ join sep pieces := by
  cases pieces with
  | nil => exact absurd rfl h
  | cons next pieces => rfl

theorem join_ne_nil {sep : Text} (h : ∀ piece ∈ pieces, piece ≠ []) (hne : pieces ≠ []) :
    join sep pieces ≠ [] := by
  cases pieces with
  | nil => exact absurd rfl hne
  | cons piece pieces =>
      have hpiece := h piece List.mem_cons_self
      cases pieces <;> simp [join, hpiece]

theorem trim_join (sep : Text) (h : ∀ piece ∈ pieces, piece.IsTrim ∧ piece ≠ []) :
    (join sep pieces).IsTrim := by
  induction pieces with
  | nil => exact .of_forall (List.forall_mem_nil _)
  | cons piece pieces ih =>
      obtain ⟨⟨htrim, hne⟩, hpieces⟩ := List.forall_mem_cons.1 h
      by_cases hnil : pieces = []
      · exact hnil ▸ htrim
      · rw [join_cons _ _ hnil]
        exact htrim.between sep (ih hpieces) hne
          (join_ne_nil (fun p hp => (hpieces p hp).2) hnil)

theorem trim_singleSpaced (t : Text) : (singleSpaced t).IsTrim := by
  refine trim_join _ fun word hword => ?_
  obtain ⟨hne, hall⟩ := of_mem_fields hword
  exact ⟨.of_forall fun c hc => (hall c hc).2, hne⟩

theorem notMem_singleSpaced (h : x ∉ t) (hx : x ≠ ' ') : x ∉ singleSpaced t := by
  have hsep : ∀ c ∈ [' '], x ≠ c := by simpa using hx
  have hwords : ∀ word ∈ words t, ∀ c ∈ word, x ≠ c := by
    intro word hword c hc hxc
    exact h (hxc ▸ ((of_mem_fields hword).2 c hc).1)
  exact fun hmem => forall_mem_join hsep hwords x hmem rfl

theorem singleSpaced_cons_of_blank (hx : isBlank x = true) :
    singleSpaced (x :: t) = singleSpaced t :=
  congrArg (join [' ']) (fields_cons_of_pos hx)

theorem isBlank_spaceBefore (t : Text) : ∀ c ∈ spaceBefore t, isBlank c = true := by
  unfold spaceBefore
  split <;> decide

theorem singleSpaced_cons (t : Text) (hc : isBlank c = false) :
    singleSpaced (c :: t) = c :: (spaceBefore t ++ singleSpaced t) := by
  unfold spaceBefore
  cases t with
  | nil =>
      exact congrArg (join [' '])
        (fields_of_forall_neg (by simp [hc]) (List.cons_ne_nil c []))
  | cons x t =>
      cases hx : isBlank x with
      | true =>
          have hwords : words (c :: x :: t) = [c] :: words t := fields_cons_sep hc hx
          rw [singleSpaced_cons_of_blank hx, singleSpaced, hwords]
          by_cases hnil : words t = []
          · simp [singleSpaced, hnil, join]
          · have hne : singleSpaced t ≠ [] :=
              join_ne_nil (fun _ hword => (of_mem_fields hword).1) hnil
            rw [join_cons _ _ hnil, if_pos ⟨hx, hne⟩]
            rfl
      | false =>
          obtain ⟨first, others, hfields, hglue⟩ := @fields_cons_glue isBlank c x t hc hx
          have hjoin : join [' '] ((c :: first) :: others) =
              c :: join [' '] (first :: others) := by
            cases others <;> rfl
          rw [if_neg (by simp [hx]), singleSpaced, words, hglue, hjoin, ← hfields]
          rfl

/-- Around a character that is not blank, setting a text in single spaces changes blanks
and nothing else. -/
theorem singleSpaced_append_cons (a b : Text) (hx : isBlank x = false) :
    ∃ s, (∀ c ∈ s, isBlank c = true) ∧ (a = [] → s = []) ∧
      singleSpaced (a ++ x :: b) = singleSpaced a ++ s ++ x ::
        (spaceBefore b ++ singleSpaced b) := by
  induction a with
  | nil => exact ⟨[], List.forall_mem_nil _, fun _ => rfl, singleSpaced_cons b hx⟩
  | cons c a ih =>
      obtain ⟨s, hs, -, hih⟩ := ih
      rw [List.cons_append]
      cases hc : isBlank c with
      | true =>
          rw [singleSpaced_cons_of_blank hc, singleSpaced_cons_of_blank hc]
          exact ⟨s, hs, fun h => absurd h (List.cons_ne_nil _ _), hih⟩
      | false =>
          rw [singleSpaced_cons _ hc, singleSpaced_cons _ hc]
          by_cases hnil : singleSpaced a = []
          -- Only blanks are left before the character, so the space does not stand
          -- between words.
          · refine ⟨spaceBefore (a ++ x :: b) ++ s,
              List.forall_mem_append.2 ⟨isBlank_spaceBefore _, hs⟩,
              fun h => absurd h (List.cons_ne_nil _ _), ?_⟩
            have hspace : spaceBefore a = [] := if_neg fun h => h.2 hnil
            rw [hih, hnil, hspace]
            simp
          · have hspace : spaceBefore (a ++ x :: b) = spaceBefore a := by
              have hhead : (a ++ x :: b).head? = a.head? := by
                cases a with
                | nil => exact absurd rfl hnil
                | cons d a => rfl
              simp [spaceBefore, hhead, hih, hnil]
            refine ⟨s, hs, fun h => absurd h (List.cons_ne_nil _ _), ?_⟩
            rw [hspace, hih]
            simp

/-- A text without blanks is one word, or none. -/
theorem singleSpaced_of_forall (h : ∀ c ∈ t, isBlank c = false) : singleSpaced t = t := by
  by_cases hne : t = []
  · subst hne
    rfl
  · rw [singleSpaced, words, fields_of_forall_neg h hne]
    rfl

theorem singleSpaced_pad (ha : ∀ c ∈ a, isBlank c = true)
    (hb : ∀ c ∈ b, isBlank c = true) (t : Text) :
    singleSpaced (a ++ t ++ b) = singleSpaced t := by
  rw [singleSpaced, words, fields_append_pad hb, fields_pad ha]
  rfl

theorem names_of_notMem (h : ',' ∉ t) : names t = [strip t].filter (· ≠ []) := by
  rw [names, split_of_notMem h]
  rfl

theorem names_append_comma (a b : Text) : names (a ++ ',' :: b) = names a ++ names b := by
  rw [names, split_append_sep, List.map_append, List.filter_append]
  rfl

/-- Blanks before the first name do not matter. -/
theorem names_pad (hs : ∀ c ∈ s, isBlank c = true) (t : Text) :
    names (s ++ t) = names t := by
  have hcomma {t : Text} (ht : ',' ∉ t) : ',' ∉ s ++ t := by
    refine fun hmem => (List.mem_append.1 hmem).elim (fun hmem => ?_) ht
    exact absurd (hs _ hmem) (by decide)
  have hstrip (t : Text) : strip (s ++ t) = strip t := by
    rw [strip, trimWhile, List.dropWhile_append_of_pos hs]
    rfl
  rcases clean_or_first (· = ',') t with hclean | ⟨a, x, b, rfl, hx, ha⟩
  · have ht : ',' ∉ t := fun hmem => absurd (hclean _ hmem) (by decide)
    rw [names_of_notMem (hcomma ht), names_of_notMem ht, hstrip]
  · have ha : ',' ∉ a := fun hmem => absurd (ha _ hmem) (by decide)
    obtain rfl : x = ',' := of_decide_eq_true hx
    rw [← List.append_assoc, names_append_comma, names_append_comma,
      names_of_notMem (hcomma ha), names_of_notMem ha, hstrip]

/-- The names of a list in single spaces are its entries in single spaces. -/
theorem names_singleSpaced (hne : pieces ≠ []) (hcomma : ∀ piece ∈ pieces, ',' ∉ piece) :
    names (singleSpaced (join [','] pieces)) =
      (pieces.map singleSpaced).filter (· ≠ []) := by
  induction pieces with
  | nil => exact absurd rfl hne
  | cons piece pieces ih =>
      obtain ⟨hpiece, hpieces⟩ := List.forall_mem_cons.1 hcomma
      have hno := notMem_singleSpaced hpiece (by decide)
      by_cases hnil : pieces = []
      · rw [hnil]
        show names (singleSpaced piece) = [singleSpaced piece].filter (· ≠ [])
        rw [names_of_notMem hno, strip_eq (trim_singleSpaced piece)]
      · obtain ⟨s, hs, -, hspaced⟩ :=
          @singleSpaced_append_cons ',' piece (join [','] pieces) (by decide)
        have hjoin : join [','] (piece :: pieces) = piece ++ ',' ::
            join [','] pieces := by
          rw [join_cons _ _ hnil]
          simp
        have hfirst : names (singleSpaced piece ++ s) =
            [singleSpaced piece].filter (· ≠ []) := by
          have hcomma : ',' ∉ s := fun hmem => absurd (hs _ hmem) (by decide)
          have hstrip := strip_pad (trim_singleSpaced piece) (List.forall_mem_nil _) hs
          rw [List.nil_append] at hstrip
          rw [names_of_notMem (by simp [hno, hcomma]), hstrip]
        rw [hjoin, hspaced, names_append_comma, names_pad (isBlank_spaceBefore _), hfirst,
          ih hnil hpieces, ← List.filter_append]
        rfl

end SingleSpaced

end ImpactGraph.Text
