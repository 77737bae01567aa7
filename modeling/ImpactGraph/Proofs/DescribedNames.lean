import ImpactGraph.Proofs.GlobSets
import ImpactGraph.Proofs.TextParts

/-!
# Which names a glob describes

A glob is cut into its parts and these are run over a name one after another,
each with everything that may be left of it. A reader sees only the glob: a star
takes any run, a question mark any one character, brackets one character of their
set, and the rest stands for itself (`Describes`).

The run keeps what a star leaves of the longest text alone, so it is right only
while the texts that are left are ends of each other. `Ends` says so, every part
keeps it, and `nil_mem_foldl_after` follows a whole glob with it.
-/

namespace ImpactGraph.Glob

open Text

variable {c : Char} {t glob name rest body members after : Text}
  {texts : List Text} {part : Part} {parts : List Part} {admits : Text → Char → Prop}

/-! ## Brackets -/

/-- What may stand between the brackets of a set: at least one member, behind an
exclamation mark or not, and no closing bracket after the first member. -/
inductive IsSetBody : Text → Prop where
  | marked {first : Char} {rest : Text} : ']' ∉ rest → IsSetBody ('!' :: first :: rest)
  | plain {first : Char} {rest : Text} : first ≠ '!' → ']' ∉ rest →
      IsSetBody (first :: rest)

/-- No bracket in a text closes the one in front of it. -/
def Unclosed (t : Text) : Prop := ∀ body after, IsSetBody body → t ≠ body ++ ']' :: after

/-- The members up to the bracket that closes them, which is not the first of them. -/
def membersOf : Text → Option (Text × Text)
  | [] => none
  | first :: rest => (cut [']'] rest).map fun parts => (first :: parts.1, parts.2)

theorem membersOf_eq_some : membersOf t = some (members, after) ↔
    ∃ first rest, ']' ∉ rest ∧ members = first :: rest ∧ t = members ++ ']' :: after := by
  cases t with
  | nil => simp [membersOf]
  | cons c t =>
      rw [membersOf, Option.map_eq_some_iff]
      constructor
      · rintro ⟨⟨rest, later⟩, hcut, heq⟩
        obtain ⟨hno, rfl⟩ := cut_eq_some_iff.1 hcut
        cases heq
        exact ⟨c, rest, hno, rfl, rfl⟩
      · rintro ⟨first, rest, hno, rfl, heq⟩
        obtain ⟨rfl, rfl⟩ := List.cons.inj heq
        exact ⟨(rest, after), cut_eq_some_iff.2 ⟨hno, rfl⟩, rfl⟩

theorem setBody?_marked (t : Text) :
    setBody? ('!' :: t) = (membersOf t).map fun parts => ('!' :: parts.1, parts.2) := by
  cases t with
  | nil => rfl
  | cons first rest =>
      by_cases hfirst : first = ']'
      · subst hfirst
        simp [setBody?, membersOf, Function.comp_def]
      · simp [setBody?, membersOf, hfirst, cut, Function.comp_def, Ne.symm hfirst]

theorem setBody?_plain (h : t.head? ≠ some '!') : setBody? t = membersOf t := by
  cases t with
  | nil => rfl
  | cons first rest =>
      by_cases hfirst : first = ']'
      · subst hfirst
        simp [setBody?, membersOf]
      · have hmark : first ≠ '!' := fun he => h (congrArg some he)
        simp [setBody?, membersOf, hfirst, hmark, cut, Function.comp_def, Ne.symm hfirst]

theorem setBody?_eq_some :
    setBody? t = some (body, after) ↔ IsSetBody body ∧ t = body ++ ']' :: after := by
  by_cases hmark : t.head? = some '!'
  · obtain ⟨t, rfl⟩ := List.head?_eq_some_iff.1 hmark
    rw [setBody?_marked, Option.map_eq_some_iff]
    constructor
    · rintro ⟨⟨members, later⟩, hmembers, heq⟩
      cases heq
      obtain ⟨first, rest, hno, rfl, rfl⟩ := membersOf_eq_some.1 hmembers
      exact ⟨.marked hno, rfl⟩
    · rintro ⟨hbody, heq⟩
      cases hbody with
      | @marked first rest hno =>
          exact ⟨(first :: rest, after),
            membersOf_eq_some.2 ⟨first, rest, hno, rfl, (List.cons.inj heq).2⟩, rfl⟩
      | plain hfirst => exact absurd (List.cons.inj heq).1.symm hfirst
  · rw [setBody?_plain hmark, membersOf_eq_some]
    constructor
    · rintro ⟨first, rest, hno, rfl, rfl⟩
      exact ⟨.plain (fun he => hmark (congrArg some he)) hno, rfl⟩
    · rintro ⟨hbody, rfl⟩
      cases hbody with
      | marked => exact absurd rfl hmark
      | @plain first rest _ hno => exact ⟨first, rest, hno, rfl, rfl⟩

theorem setBody?_eq_none : setBody? t = none ↔ Unclosed t := by
  constructor
  · intro h body after hbody ht
    rw [setBody?_eq_some.2 ⟨hbody, ht⟩] at h
    cases h
  · intro h
    cases hset : setBody? t with
    | none => rfl
    | some parts =>
        obtain ⟨hbody, ht⟩ := setBody?_eq_some.1 hset
        exact absurd ht (h _ _ hbody)

/-! ## What the parts of a glob take -/

/-- A part takes the beginning of a text and leaves this rest. -/
def Part.Leaves : Part → Text → Text → Prop
  | .anyRun, t, rest => rest <:+ t
  | .anyOne, t, rest => ∃ c, t = c :: rest
  | .literal c, t, rest => t = c :: rest
  | .set negated ranges, t, rest =>
    ∃ c, t = c :: rest ∧ (inRanges ranges c != negated) = true

/-- The parts take a text one after another and leave nothing. -/
def TakeAll : List Part → Text → Prop
  | [], t => t = []
  | part :: parts, t => ∃ rest, part.Leaves t rest ∧ TakeAll parts rest

/-- Texts that are ends of each other, the longest first. -/
def Ends (texts : List Text) : Prop := texts.Pairwise fun longer shorter =>
    shorter <:+ longer

theorem mem_leftOf : rest ∈ leftOf t ↔ rest <:+ t := by
  induction t with
  | nil => rw [leftOf, List.mem_singleton, List.suffix_nil]
  | cons c t ih => rw [leftOf, List.mem_cons, List.suffix_cons_iff, ih]

theorem ends_leftOf (t : Text) : Ends (leftOf t) := by
  induction t with
  | nil => exact List.pairwise_singleton _ _
  | cons c t ih =>
      refine List.pairwise_cons.2 ⟨fun rest hrest => ?_, ih⟩
      exact (mem_leftOf.1 hrest).trans (List.suffix_cons c t)

theorem mem_afterOne {test : Char → Bool} :
    rest ∈ afterOne test texts ↔ ∃ t ∈ texts, ∃ c, t = c :: rest ∧ test c = true := by
  simp only [afterOne, List.mem_filterMap]
  refine exists_congr fun t => and_congr_right fun _ => ?_
  cases t with
  | nil => simp
  | cons d t =>
      simp only [Option.ite_none_right_eq_some, Option.some.injEq]
      constructor
      · rintro ⟨htest, rfl⟩
        exact ⟨d, rfl, htest⟩
      · rintro ⟨c, heq, htest⟩
        cases heq
        exact ⟨htest, rfl⟩

theorem ends_afterOne {test : Char → Bool} (h : Ends texts) :
    Ends (afterOne test texts) := by
  refine List.Pairwise.filterMap
    _ (fun longer shorter hends rest hrest later hlater => ?_) h
  cases longer with
  | nil => cases hrest
  | cons c longer =>
      cases shorter with
      | nil => cases hlater
      | cons d shorter =>
          simp only [Option.ite_none_right_eq_some, Option.some.injEq] at hrest hlater
          obtain ⟨-, rfl⟩ := hrest
          obtain ⟨-, rfl⟩ := hlater
          rcases List.suffix_cons_iff.1 hends with heq | hends
          · exact (List.cons.inj heq).2 ▸ List.suffix_rfl
          · exact (List.suffix_cons d _).trans hends

theorem ends_after (h : Ends texts) : Ends (part.after texts) := by
  cases part with
  | anyRun =>
      cases texts with
      | nil => exact List.Pairwise.nil
      | cons longest more => exact ends_leftOf longest
  | anyOne => exact ends_afterOne h
  | set negated ranges => exact ends_afterOne h
  | literal c => exact ends_afterOne h

theorem mem_after (h : Ends texts) : rest ∈ part.after texts ↔ ∃ t ∈ texts,
    part.Leaves t rest := by
  cases part with
  | anyRun =>
      cases texts with
      | nil => simp [Part.after]
      | cons longest more =>
          rw [Part.after, mem_leftOf]
          refine ⟨fun hrest => ⟨longest, List.mem_cons_self, hrest⟩,
            fun ⟨t, ht, hrest⟩ => ?_⟩
          rcases List.mem_cons.1 ht with rfl | ht
          · exact hrest
          · exact List.IsSuffix.trans hrest ((List.pairwise_cons.1 h).1 t ht)
  | anyOne => simp [Part.after, mem_afterOne, Part.Leaves]
  | set negated ranges => simp only [Part.after, mem_afterOne, Part.Leaves, inRanges]
  | literal c => simp [Part.after, mem_afterOne, Part.Leaves]

theorem nil_mem_foldl_after (h : Ends texts) :
    [] ∈ parts.foldl (fun texts part => part.after texts) texts ↔ ∃ t ∈ texts,
      TakeAll parts t := by
  induction parts generalizing texts with
  | nil => simp [TakeAll]
  | cons part parts ih =>
      rw [List.foldl_cons, ih (ends_after h)]
      constructor
      · rintro ⟨rest, hrest, hparts⟩
        obtain ⟨t, ht, hleaves⟩ := (mem_after h).1 hrest
        exact ⟨t, ht, rest, hleaves, hparts⟩
      · rintro ⟨t, ht, rest, hleaves, hparts⟩
        exact ⟨rest, (mem_after h).2 ⟨t, ht, hleaves⟩, hparts⟩

theorem describes_iff_takeAll : describes glob name = true ↔
    TakeAll (parse glob) name := by
  rw [describes, decide_eq_true_eq, nil_mem_foldl_after (List.pairwise_singleton _ _)]
  simp

/-! ## Globs as they are written -/

/-- A glob describes a name, all of it. What the text between brackets stands for is left
open. -/
inductive Describes (admits : Text → Char → Prop) : Text → Text → Prop where
  | nil : Describes admits [] []
  | anyRun {glob name : Text} (run : Text) : Describes admits glob name →
      Describes admits ('*' :: glob) (run ++ name)
  | anyOne {glob name : Text} (c : Char) : Describes admits glob name →
      Describes admits ('?' :: glob) (c :: name)
  | set {body glob name : Text} {c : Char} : IsSetBody body → admits body c →
      Describes admits glob name →
        Describes admits ('[' :: (body ++ ']' :: glob)) (c :: name)
  | literal {c : Char} {glob name : Text} : c ≠ '*' → c ≠ '?' →
      (c = '[' → Unclosed glob) →
      Describes admits glob name → Describes admits (c :: glob) (c :: name)

theorem describes_nil_iff : Describes admits [] name ↔ name = [] := by
  constructor
  · intro h
    cases h
    rfl
  · rintro rfl
    exact .nil

theorem describes_cons_iff : Describes admits (c :: glob) name ↔
    (c = '*' ∧ ∃ rest, rest <:+ name ∧ Describes admits glob rest) ∨
    (c = '?' ∧ ∃ d rest, name = d :: rest ∧ Describes admits glob rest) ∨
    (c = '[' ∧ ∃ body after, IsSetBody body ∧ glob = body ++ ']' :: after ∧
      ∃ d rest, name = d :: rest ∧ admits body d ∧ Describes admits after rest) ∨
    (c ≠ '*' ∧ c ≠ '?' ∧ (c = '[' → Unclosed glob) ∧
      ∃ rest, name = c :: rest ∧ Describes admits glob rest) := by
  constructor
  · intro h
    cases h with
    | anyRun run h => exact .inl ⟨rfl, _, List.suffix_append _ _, h⟩
    | anyOne d h => exact .inr (.inl ⟨rfl, d, _, rfl, h⟩)
    | set hbody hd h => exact .inr (.inr (.inl ⟨rfl, _, _, hbody, rfl, _, _, rfl, hd, h⟩))
    | literal hstar hone hopen h =>
        exact .inr (.inr (.inr ⟨hstar, hone, hopen, _, rfl, h⟩))
  · rintro (⟨rfl, rest, ⟨run, rfl⟩, h⟩ | ⟨rfl, d, rest, rfl, h⟩ |
      ⟨rfl, body, after, hbody, rfl, d, rest, rfl, hd, h⟩ |
        ⟨hstar, hone, hopen, rest, rfl, h⟩)
    · exact .anyRun run h
    · exact .anyOne d h
    · exact .set hbody hd h
    · exact .literal hstar hone hopen h

theorem describes_star_iff :
    Describes admits ('*' :: glob) name ↔ ∃ rest, rest <:+ name ∧
      Describes admits glob rest := by
  rw [describes_cons_iff]
  simp

theorem describes_one_iff :
    Describes admits ('?' :: glob) name ↔
      ∃ rest, (∃ d, name = d :: rest) ∧ Describes admits glob rest := by
  rw [describes_cons_iff]
  constructor
  · rintro (⟨he, -⟩ | ⟨-, d, rest, hname, h⟩ | ⟨he, -⟩ | ⟨-, he, -⟩)
    · exact absurd he (by decide)
    · exact ⟨rest, ⟨d, hname⟩, h⟩
    · exact absurd he (by decide)
    · exact absurd rfl he
  · rintro ⟨rest, ⟨d, hname⟩, h⟩
    exact .inr (.inl ⟨rfl, d, rest, hname, h⟩)

theorem describes_set_iff (hbody : IsSetBody body) :
    Describes admits ('[' :: (body ++ ']' :: glob)) name ↔
      ∃ rest, (∃ d, name = d :: rest ∧ admits body d) ∧ Describes admits glob rest := by
  rw [describes_cons_iff]
  constructor
  · rintro (⟨he, -⟩ | ⟨he, -⟩ | ⟨-, other, after, hother, heq, d, rest, hname, hd, h⟩ |
      ⟨-, -, hopen, -⟩)
    · exact absurd he (by decide)
    · exact absurd he (by decide)
    · -- The brackets are closed in one place only.
      have hset := setBody?_eq_some.2 ⟨hother, heq⟩
      rw [setBody?_eq_some.2 ⟨hbody, rfl⟩] at hset
      cases hset
      exact ⟨rest, ⟨d, hname, hd⟩, h⟩
    · exact absurd rfl (hopen rfl body glob hbody)
  · rintro ⟨rest, ⟨d, hname, hd⟩, h⟩
    exact .inr (.inr (.inl ⟨rfl, body, glob, hbody, rfl, d, rest, hname, hd, h⟩))

theorem describes_literal_iff (hstar : c ≠ '*') (hone : c ≠ '?')
    (hopen : c = '[' → Unclosed glob) :
    Describes admits (c :: glob) name ↔ ∃ rest, name = c :: rest ∧
      Describes admits glob rest := by
  rw [describes_cons_iff]
  constructor
  · rintro (⟨he, -⟩ | ⟨he, -⟩ | ⟨he, body, after, hbody, heq, -⟩ | ⟨-, -, -, h⟩)
    · exact absurd he hstar
    · exact absurd he hone
    · exact absurd heq (hopen he body after hbody)
    · exact h
  · intro h
    exact .inr (.inr (.inr ⟨hstar, hone, hopen, h⟩))

theorem leaves_setOf : (setOf body).Leaves t rest ↔ ∃ d, t = d :: rest ∧
    Admits body d := by
  obtain ⟨negated, ranges, hset, hadmits⟩ := setOf_admits body
  rw [hset, Part.Leaves]
  simp only [hadmits]

/-- The parts of a glob take a name exactly when the glob describes it, its sets being
read as they are. -/
theorem takeAll_parse : TakeAll (parse glob) name ↔ Describes Admits glob name := by
  fun_induction parse glob generalizing name with
  | case1 => rw [describes_nil_iff, TakeAll]
  | case2 rest ih =>
      rw [describes_star_iff, TakeAll]
      exact exists_congr fun _ => and_congr_right fun _ => ih
  | case3 rest _ ih =>
      rw [describes_one_iff, TakeAll]
      exact exists_congr fun _ => and_congr_right fun _ => ih
  | case4 rest body after hset _ _ ih =>
      obtain ⟨hbody, rfl⟩ := setBody?_eq_some.1 hset
      have hlt : after.length < (body ++ ']' :: after).length + 1 := by
        rw [List.length_append, List.length_cons]
        omega
      rw [describes_set_iff hbody, TakeAll, dif_pos hlt]
      exact exists_congr fun _ => and_congr leaves_setOf (ih hlt)
  | case5 rest hset hstar hone ih =>
      rw [describes_literal_iff hstar hone fun _ => setBody?_eq_none.1 hset, TakeAll]
      exact exists_congr fun _ => and_congr_right fun _ => ih
  | case6 c rest hstar hone hopen ih =>
      rw [describes_literal_iff hstar hone fun he => absurd he hopen, TakeAll]
      exact exists_congr fun _ => and_congr_right fun _ => ih

theorem describes_iff : describes glob name = true ↔ Describes Admits glob name :=
  describes_iff_takeAll.trans takeAll_parse

end ImpactGraph.Glob
