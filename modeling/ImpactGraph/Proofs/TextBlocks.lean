import ImpactGraph.Facts.Basic
import ImpactGraph.Proofs.PatternSearch
import ImpactGraph.Proofs.TextParts

/-!
# Statements one below the other

A source text is written as blocks, each on lines of its own. What a pattern
finds in such a text is what it finds in one block after another, as soon as
the block decides its matches by itself: whatever follows behind the line
break. The line of a match is then the line on which its block starts, since
the line breaks before it are those of the blocks before it and one for each
of them.
-/

namespace ImpactGraph

namespace Text

variable {α : Type} {text : α → Text} {ended : Bool}

/-- Blocks of text one below the other; the last may have a line break behind it. -/
def stack (ended : Bool) : List Text → Text
  | [] => []
  | [block] => block ++ if ended then ['\n'] else []
  | block :: next :: blocks => block ++ '\n' :: stack ended (next :: blocks)

/-- The line that ends a list in parentheses. -/
def footer (closing : Text) : Text := closing ++ [')']

theorem notMem_footer {closing : Text}
    (hclosing : ∀ c ∈ closing, isInlineBlank c = true) : '\n' ∉ footer closing := by
  rw [footer, List.mem_append, not_or]
  exact ⟨notMem_of_inline hclosing, by decide⟩

/-- Each block with the offset where it starts. -/
def placed (text : α → Text) (offset : Nat) : List α → List (α × Nat)
  | [] => []
  | a :: blocks => (a, offset) :: placed text (offset + (text a).length + 1) blocks

/-- Each block with the number of the line on which it starts. -/
def numbered (text : α → Text) (line : Nat) : List α → List (α × Nat)
  | [] => []
  | a :: blocks => (a, line) :: numbered text (line + (text a).count '\n' + 1) blocks

/-- A text that can follow a block: nothing, or a line break and more. -/
def EndsBlock (tail : Text) : Prop := ∀ x ∈ tail.head?, x = '\n'

theorem stack_cons (ended : Bool) (block : Text) (blocks : List Text) :
    (blocks = [] ∧ stack ended (block :: blocks) = block) ∨
      stack ended (block :: blocks) = block ++ '\n' :: stack ended blocks := by
  cases blocks with
  | nil =>
      cases ended with
      | false => exact .inl ⟨rfl, List.append_nil block⟩
      | true => exact .inr rfl
  | cons next blocks => exact .inr rfl

/-- Every character of a stack but the line breaks between blocks lies in a block. -/
theorem exists_block_of_stack {blocks : List Text} {before rest : Text} {x : Char}
    (h : stack ended blocks = before ++ x :: rest) (hx : x ≠ '\n') :
    ∃ block ∈ blocks, ∃ above left right tail, block = left ++ right ∧ right ≠ [] ∧
      EndsBlock tail ∧
      before = above ++ left ∧ x :: rest = right ++ tail := by
  induction blocks generalizing before with
  | nil => exact absurd h (by simp [stack])
  | cons block blocks ih =>
      rcases stack_cons ended block blocks with ⟨-, hstack⟩ | hstack
      · rw [hstack] at h
        refine ⟨block, List.mem_cons_self, [], before, x :: rest, [], h,
          List.cons_ne_nil _ _, ?_, rfl, ?_⟩
        · exact fun _ hmem => absurd hmem (by simp)
        · rw [List.append_nil]
      · rw [hstack] at h
        rcases List.append_eq_append_iff.1 h with ⟨past, rfl, hpast⟩ |
          ⟨right, rfl, hright⟩
        -- The character comes behind the block, so behind the line break as well.
        · cases past with
          | nil => exact absurd (List.cons.inj hpast).1.symm hx
          | cons y past =>
              obtain ⟨rfl, hrest⟩ := List.cons.inj hpast
              obtain ⟨next, hnext, above, left, right, tail, hblock, hne,
                  htail, rfl, hx⟩ := ih hrest
              refine ⟨next, List.mem_cons_of_mem _ hnext, block ++ '\n' :: above, left,
                right, tail, hblock, hne, htail, ?_, hx⟩
              simp
        · cases right with
          | nil => exact absurd (List.cons.inj hright).1 hx
          | cons y right =>
              exact ⟨_, List.mem_cons_self, [], before, y :: right, _, rfl,
                List.cons_ne_nil _ _, by simp [EndsBlock], rfl, hright⟩

theorem numbered_eq_zipIdx {blocks : List α} (h : ∀ a ∈ blocks, '\n' ∉ text a)
    (line : Nat) : numbered text line blocks = blocks.zipIdx line := by
  induction blocks generalizing line with
  | nil => rfl
  | cons a blocks ih =>
      obtain ⟨ha, hblocks⟩ := List.forall_mem_cons.1 h
      rw [numbered, List.count_eq_zero.2 ha, Nat.add_zero, ih hblocks, List.zipIdx_cons]

theorem map_fst_numbered (blocks : List α) (line : Nat) :
    (numbered text line blocks).map Prod.fst = blocks := by
  induction blocks generalizing line with
  | nil => rfl
  | cons a blocks ih => rw [numbered, List.map_cons, ih]

theorem mem_of_mem_numbered {blocks : List α} {line : Nat} {x : α × Nat}
    (h : x ∈ numbered text line blocks) : x.1 ∈ blocks := by
  rw [← @map_fst_numbered α text blocks line]
  exact List.mem_map_of_mem h

theorem flatMap_numbered {β : Type} (f : α → List β) (blocks : List α) (line : Nat) :
    (numbered text line blocks).flatMap (fun x => f x.1) = blocks.flatMap f := by
  have hfst := @List.flatMap_map _ _ _ Prod.fst f (numbered text line blocks)
  rw [map_fst_numbered] at hfst
  exact hfst.symm

theorem stack_cons_of_ne_nil (ended : Bool) (block : Text) {blocks : List Text}
    (hne : blocks ≠ []) :
    stack ended (block :: blocks) = block ++ '\n' :: stack ended blocks :=
  (stack_cons ended block blocks).resolve_left fun h => hne h.1

theorem stack_true_cons (block : Text) (blocks : List Text) :
    stack true (block :: blocks) = block ++ '\n' :: stack true blocks := by
  cases blocks <;> rfl

theorem stack_append (ended : Bool) (above : List Text) {below : List Text}
    (hne : below ≠ []) :
    stack ended (above ++ below) = stack true above ++ stack ended below := by
  induction above with
  | nil => rfl
  | cons block above ih =>
      have hmore : above ++ below ≠ [] := fun h => hne (List.append_eq_nil_iff.1 h).2
      rw [List.cons_append, stack_cons_of_ne_nil ended block hmore, ih, stack_true_cons]
      simp

theorem getLast?_stack_true (lines : List Text) : ∀ x ∈ (stack true lines).getLast?,
    x = '\n' := by
  induction lines with
  | nil => exact fun x hx => absurd hx (by simp [stack])
  | cons line lines ih =>
      rw [stack_true_cons, List.getLast?_append, List.getLast?_cons]
      intro x hx
      cases hlast : (stack true lines).getLast? with
      | none =>
          rw [hlast] at hx
          exact (Option.some.inj hx).symm
      | some y =>
          rw [hlast] at hx
          exact ih x (hlast.trans hx)

theorem count_stack_true {lines : List Text} (hlines : ∀ line ∈ lines, '\n' ∉ line) :
    (stack true lines).count '\n' = lines.length := by
  induction lines with
  | nil => rfl
  | cons line lines ih =>
      obtain ⟨hline, hlines⟩ := List.forall_mem_cons.1 hlines
      rw [stack_true_cons, List.count_append, List.count_cons_self,
        List.count_eq_zero.2 hline, ih hlines]
      simp

/-- What stands behind a line break of a stack of lines is a stack of lines. -/
theorem exists_lines_of_stack {lines : List Text} {u v : Text}
    (hlines : ∀ line ∈ lines, '\n' ∉ line) (h : stack ended lines = u ++ '\n' :: v) :
    ∃ above below, lines = above ++ below ∧ above ≠ [] ∧ v = stack ended below := by
  induction lines generalizing u with
  | nil => exact absurd h (by simp [stack])
  | cons line lines ih =>
      obtain ⟨hline, hlines⟩ := List.forall_mem_cons.1 hlines
      rcases stack_cons ended line lines with ⟨-, hstack⟩ | hstack
      · rw [hstack] at h
        exact absurd (by simp [h]) hline
      · rw [hstack] at h
        rcases List.append_eq_append_iff.1 h with ⟨past, rfl, hpast⟩ | ⟨rest, rfl, hrest⟩
        · cases past with
          | nil => exact ⟨[line], lines, rfl, by simp, (List.cons.inj hpast).2.symm⟩
          | cons x past =>
              obtain ⟨above, below, rfl, -, hv⟩ := ih hlines (List.cons.inj hpast).2
              exact ⟨line :: above, below, rfl, List.cons_ne_nil _ _, hv⟩
        · cases rest with
          | nil => exact ⟨[u], lines, by simp, by simp, (List.cons.inj hrest).2⟩
          | cons x rest =>
              obtain rfl := (List.cons.inj hrest).1
              exact absurd (by simp) hline

theorem placed_add (text : α → Text) (start offset : Nat) (blocks : List α) :
    placed text (start + offset) blocks = (placed text offset blocks).map fun x =>
      (x.1, start + x.2) := by
  induction blocks generalizing offset with
  | nil => rfl
  | cons a blocks ih =>
      rw [placed, placed, List.map_cons, ← ih]
      simp [Nat.add_assoc]

/-- A place inside the first line of a block is on the line on which the block starts. -/
theorem map_lineAt_within {inside : α → Nat} {blocks : List α}
    (hinside : ∀ a ∈ blocks, ∃ left right, text a = left ++ right ∧
      left.length = inside a ∧ '\n' ∉ left)
    (done after : Text) :
    ((placed text done.length blocks).map fun x =>
        (x.1,
          lineAt (done ++ stack ended (blocks.map text) ++ after) (x.2 + inside x.1))) =
      numbered text (done.count '\n' + 1) blocks := by
  induction blocks generalizing done with
  | nil => rfl
  | cons a blocks ih =>
      obtain ⟨⟨left, right, htext, hlength, hleft⟩, hblocks⟩ :=
        List.forall_mem_cons.1 hinside
      have hline : lineAt (done ++ stack ended ((a :: blocks).map text) ++ after)
        (done.length + inside a) =
          done.count '\n' + 1 := by
        obtain ⟨more, hmore⟩ : ∃ more, stack ended ((a :: blocks).map text) =
            text a ++ more := by
          rcases stack_cons ended (text a) (blocks.map text) with ⟨-, hstack⟩ | hstack
          · exact ⟨[], by rw [List.map_cons, hstack, List.append_nil]⟩
          · exact ⟨_, hstack⟩
        have hsplit : done ++ stack ended ((a :: blocks).map text) ++ after =
            (done ++ left) ++ (right ++ more ++ after) := by
          rw [hmore, htext]
          simp
        have hcut : done.length + inside a = (done ++ left).length := by
          rw [List.length_append, hlength]
        rw [lineAt, hsplit, hcut, List.take_left, List.count_append,
          List.count_eq_zero.2 hleft]
      rw [placed, numbered, List.map_cons, hline]
      refine congrArg _ ?_
      rcases stack_cons ended (text a) (blocks.map text) with ⟨hnil, -⟩ | hstack
      · rw [List.map_eq_nil_iff.1 hnil]
        rfl
      · have hnext := ih hblocks (done ++ text a ++ ['\n'])
        have hlength : (done ++ text a ++ ['\n']).length =
            done.length + (text a).length + 1 := by
          rw [List.length_append, List.length_append, List.length_singleton]
        have hcount : (done ++ text a ++ ['\n']).count '\n' =
            done.count '\n' + 1 + (text a).count '\n' := by
          simp only [List.count_append, List.count_singleton_self]
          omega
        rw [hlength, hcount] at hnext
        rw [List.map_cons, hstack, ← hnext]
        simp

theorem map_lineAt_placed (done : Text) (blocks : List α) :
    (placed text done.length blocks).map
        (fun x => (x.1, lineAt (done ++ stack ended (blocks.map text)) x.2)) =
      numbered text (done.count '\n' + 1) blocks := by
  have hstart : ∀ a ∈ blocks, ∃ left right, text a = left ++ right ∧ left.length = 0 ∧
      '\n' ∉ left :=
    fun a _ => ⟨[], text a, rfl, rfl, List.not_mem_nil⟩
  have hwithin := @map_lineAt_within α text ended _ blocks hstart done []
  rwa [List.append_nil] at hwithin

end Text

namespace Pattern

open Text

variable {α β : Type} {text : α → Text} {ended : Bool} {p : Pattern}
  {read : Match → List β} {expect : α → Nat → List β} {blocks : List α} {c : Cursor}
  {t tail : Text} {B : Text → Prop}

/-- A pattern for beginnings of lines, in a text where none of its lines begins as it has
to. -/
theorem foundFrom_of_lines (hline : StartsLine p)
    (hB : ∀ {c d : Cursor}, d ∈ p.ends c → B c.rest) (hrest : c.rest = t ++ tail)
    (hfirst : t ≠ [] → (∀ x ∈ c.before, x = '\n') → ¬ B c.rest)
    (hmore : ∀ u v, t = u ++ '\n' :: v → v ≠ [] → ¬ B (v ++ tail)) :
    p.foundFrom c = p.foundFrom (c.past t tail) := by
  refine foundFrom_past hrest fun u v huv hv => matchAt_eq_none fun d hd => ?_
  rcases List.eq_nil_or_concat u with rfl | ⟨u, x, rfl⟩
  · rw [List.nil_append] at huv
    rw [Cursor.past_nil (huv ▸ hrest)] at hd
    have hbefore := hline _ d hd
    have hbegins := hB hd
    exact hfirst (huv ▸ hv) hbefore hbegins
  · obtain rfl : x = '\n' := hline _ d hd x (by simp [Cursor.past])
    exact hmore u v (by rw [huv]; simp) hv (hB hd)

theorem foundFrom_of_line (hline : StartsLine p)
    (hB : ∀ {c d : Cursor}, d ∈ p.ends c → B c.rest) (hbreak : '\n' ∉ t)
    (hrest : c.rest = t ++ tail) (hfirst : (∀ x ∈ c.before, x = '\n') → ¬ B c.rest) :
    p.foundFrom c = p.foundFrom (c.past t tail) :=
  foundFrom_of_lines hline hB hrest (fun _ => hfirst) fun u v huv =>
    absurd (by rw [huv]; simp) hbreak

/-- A line that does not begin as it has to, whatever follows it. -/
def IsQuiet (B : Text → Prop) (line : Text) : Prop :=
  '\n' ∉ line ∧ ∀ tail, EndsBlock tail → ¬ B (line ++ tail)

section Quiet

variable {lines above below : List Text} {head taken rest content : Text}

theorem IsQuiet.not_begins (hlines : ∀ line ∈ lines, IsQuiet B line) (hne : lines ≠ []) :
    ¬ B (stack ended lines) := by
  obtain ⟨line, lines, rfl⟩ := List.exists_cons_of_ne_nil hne
  obtain ⟨-, hquiet⟩ := hlines line List.mem_cons_self
  rcases stack_cons ended line lines with ⟨-, hstack⟩ | hstack
  · have hnone := hquiet [] (by simp [EndsBlock])
    rwa [List.append_nil, ← hstack] at hnone
  · rw [hstack]
    exact hquiet _ (by simp [EndsBlock])

theorem foundFrom_of_quiet (hp : StartsLine p)
    (hB : ∀ {c d : Cursor}, d ∈ p.ends c → B c.rest)
    (hlines : ∀ line ∈ lines, IsQuiet B line)
    (hrest : c.rest = stack true lines ++ tail) :
    p.foundFrom c = p.foundFrom (c.past (stack true lines) tail) := by
  have hquiet {below : List Text} (hbelow : ∀ line ∈ below,
    IsQuiet B line) (hne : below ≠ []) : ¬ B (stack true below ++ tail) := by
    obtain ⟨line, below, rfl⟩ := List.exists_cons_of_ne_nil hne
    rw [stack_true_cons, List.append_assoc]
    exact (hbelow line List.mem_cons_self).2 _ (by simp [EndsBlock])
  refine foundFrom_of_lines hp hB hrest (fun hne _ => ?_) fun u v huv hv => ?_
  · rw [hrest]
    refine hquiet hlines ?_
    rintro rfl
    exact hne rfl
  · obtain ⟨above, below, rfl, -, rfl⟩ :=
      exists_lines_of_stack (fun line hline => (hlines line hline).1) huv
    refine hquiet (List.forall_mem_append.1 hlines).2 ?_
    rintro rfl
    exact hv rfl

theorem findAll_eq_nil_of_quiet (hp : StartsLine p)
    (hB : ∀ {c d : Cursor}, d ∈ p.ends c → B c.rest) (hnil : ¬ B [])
    (hlines : ∀ line ∈ lines, IsQuiet B line) : p.findAll (stack ended lines) = [] := by
  rw [findAll_eq, foundFrom_of_lines hp hB (List.append_nil _).symm (fun hne _ => ?_)
    fun u v huv hv => ?_]
  · exact foundFrom_nil (matchAt_eq_none fun d hd => hnil (hB hd)) rfl
  · refine IsQuiet.not_begins hlines ?_
    rintro rfl
    exact hne rfl
  · obtain ⟨above, below, rfl, -, rfl⟩ :=
      exists_lines_of_stack (fun line hline => (hlines line hline).1) huv
    rw [List.append_nil]
    refine IsQuiet.not_begins (List.forall_mem_append.1 hlines).2 ?_
    rintro rfl
    exact hv rfl

/-- A match at the beginning of a line is the only one if the lines above do not begin as
they have to and neither do those below, of which the match may take some. -/
theorem findAll_of_first {d : Cursor} (hp : StartsLine p)
    (hB : ∀ {c d : Cursor}, d ∈ p.ends c → B c.rest) (hnil : ¬ B [])
    (habove : ∀ line ∈ above, IsQuiet B line) (hhead : '\n' ∉ head)
    (hbelow : ∀ line ∈ below, IsQuiet B line)
    (hcontent : content = stack ended (above ++ head :: below))
    (hsplit : stack ended (head :: below) = taken ++ rest)
    (hlast : ∃ x, taken.getLast? = some x ∧ x ≠ '\n')
    (hfirst :
      p.first some ((Cursor.ofText content).past (stack true above) (taken ++ rest)) =
        some d)
    (hspan :
      ((Cursor.ofText content).past (stack true above) (taken ++ rest)).Spans d taken) :
    p.findAll content =
      [((Cursor.ofText content).past (stack true above) (taken ++ rest)).matchTo d] := by
  obtain ⟨x, hx, hbreak⟩ := hlast
  have hne : taken ≠ [] := by
    rintro rfl
    exact absurd hx (by simp)
  have hstart : (Cursor.ofText content).rest = stack true above ++ (taken ++ rest) := by
    rw [← hsplit, ← stack_append _ _ (List.cons_ne_nil _ _), ← hcontent]
    rfl
  generalize hc : (Cursor.ofText content).past (stack true above) (taken ++ rest) =
    c at hfirst hspan ⊢
  have hrest : c.rest = taken ++ rest := by rw [← hc, Cursor.past_rest]
  have hkept : { c with kept := [] } = c := by rw [← hc]; rfl
  have hbehind : p.foundFrom (c.past taken rest) = [] := by
    rw [foundFrom_of_lines hp hB (List.append_nil rest).symm]
    · exact foundFrom_nil (matchAt_eq_none fun e he => hnil (hB he)) rfl
    · intro _ hline
      rw [Cursor.past_before_of_ne_nil hne, hx] at hline
      exact absurd (hline x rfl) hbreak
    · intro u v huv hv
      have hlines : ∀ line ∈ head :: below, '\n' ∉ line :=
        List.forall_mem_cons.2 ⟨hhead, fun line hline => (hbelow line hline).1⟩
      have hcut : stack ended (head :: below) = (taken ++ u) ++ '\n' :: v := by
        rw [hsplit, huv]
        simp
      obtain ⟨first, others, heq, hfirst, rfl⟩ := exists_lines_of_stack hlines hcut
      obtain ⟨line, first, rfl⟩ := List.exists_cons_of_ne_nil hfirst
      obtain ⟨-, rfl⟩ := List.cons.inj heq
      rw [List.append_nil]
      refine IsQuiet.not_begins (List.forall_mem_append.1 hbelow).2 ?_
      rintro rfl
      exact hv rfl
  rw [findAll_eq, foundFrom_of_quiet hp hB habove hstart, hc,
    foundFrom_of_first hrest hne (hkept ▸ hfirst) hspan, hbehind]

end Quiet

/-- A block decides by itself what is read off its matches, whatever follows behind the
line break; the place where it starts may come in. -/
def Decides (p : Pattern) (read : Match → List β) (block : Text)
    (found : Nat → List β) : Prop :=
  ∀ (c : Cursor) (tail : Text), c.rest = block ++ tail → (∀ x ∈ c.before, x = '\n') →
    EndsBlock tail →
    ∃ ms, p.foundFrom c = ms ++ p.foundFrom (c.past block tail) ∧ ms.flatMap read =
      found c.offset

/-- What is read off the matches of a stack is what is read off those of its blocks. -/
theorem flatMap_foundFrom_stack
    (hquiet : ∀ c : Cursor, EndsBlock c.rest → p.matchAt c = none)
    (hblock : ∀ a ∈ blocks, p.Decides read (text a) (expect a)) {c : Cursor}
    (hrest : c.rest = stack ended (blocks.map text))
    (hbefore : ∀ x ∈ c.before, x = '\n') :
    (p.foundFrom c).flatMap read =
      (placed text c.offset blocks).flatMap fun x => expect x.1 x.2 := by
  induction blocks generalizing c with
  | nil =>
      have hend : EndsBlock c.rest := by
        rw [hrest]
        exact fun _ hmem => absurd hmem (by simp [stack])
      rw [foundFrom_nil (hquiet c hend) hrest]
      rfl
  | cons a blocks ih =>
      obtain ⟨ha, hblocks⟩ := List.forall_mem_cons.1 hblock
      rw [placed, List.flatMap_cons]
      rw [List.map_cons] at hrest
      rcases stack_cons ended (text a) (blocks.map text) with ⟨hnil, hstack⟩ | hstack
      · rw [hstack, ← List.append_nil (text a)] at hrest
        have hend : EndsBlock [] := fun _ hmem => absurd hmem (by simp)
        obtain ⟨ms, hms, hread⟩ := ha c [] hrest hbefore hend
        rw [hms, foundFrom_nil (hquiet _ hend) rfl, List.append_nil, hread,
          List.map_eq_nil_iff.1 hnil]
        simp [placed]
      · rw [hstack] at hrest
        have hend : EndsBlock ('\n' :: stack ended (blocks.map text)) := by
          simp [EndsBlock]
        obtain ⟨ms, hms, hread⟩ := ha c _ hrest hbefore hend
        have hbreak :
          p.foundFrom (c.past (text a) ('\n' :: stack ended (blocks.map text))) =
            p.foundFrom (c.past (text a ++ ['\n']) (stack ended (blocks.map text))) := by
          rw [← Cursor.past_past]
          refine foundFrom_past rfl fun u v huv hv => hquiet _ ?_
          obtain ⟨rfl, rfl⟩ | ⟨-, rfl⟩ := List.append_eq_singleton_iff.1 huv.symm
          · exact hend
          · exact absurd rfl hv
        have hnext :=
          @ih hblocks (c.past (text a ++ ['\n']) (stack ended (blocks.map text))) rfl
          (by rw [Cursor.past_before_of_ne_nil (by simp)]; simp)
        rw [hms, List.flatMap_append, hread, hbreak, hnext]
        simp [Nat.add_assoc]

/-- A stack read with the numbers of lines. -/
theorem flatMap_findAll_stack {expect : α → Nat → List β}
    (hquiet : ∀ c : Cursor, EndsBlock c.rest → p.matchAt c = none)
    (hblock : ∀ a ∈ blocks, p.Decides read (text a) fun offset =>
      expect a (lineAt (stack ended (blocks.map text)) offset)) :
    (p.findAll (stack ended (blocks.map text))).flatMap read =
      (numbered text 1 blocks).flatMap fun x => expect x.1 x.2 := by
  have hstart : ∀ x ∈ (Cursor.ofText (stack ended (blocks.map text))).before, x = '\n' :=
    fun _ hmem => absurd hmem (by simp [Cursor.ofText])
  have hplaced := @flatMap_foundFrom_stack α β text ended p read
    (fun a offset => expect a (lineAt (stack ended (blocks.map text)) offset))
      blocks hquiet hblock
    (.ofText (stack ended (blocks.map text))) rfl hstart
  rw [findAll_eq, hplaced]
  have hlines := @map_lineAt_placed α text ended [] blocks
  rw [List.nil_append] at hlines
  show _ = (numbered text (([] : Text).count '\n' + 1) blocks).flatMap _
  rw [← hlines, List.flatMap_map]
  rfl

end Pattern

end ImpactGraph
