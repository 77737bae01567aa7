import ImpactGraph.Proofs.TextParts
import ImpactGraph.Text.LowerCase

/-!
# Texts in lower case

The names of settings are plain: they are written in ASCII and without capitals, and no
text in front of such a name changes how it is lowered. A text that was lowered has no
capital of ASCII and no Kelvin sign any more, and these are all that maps into ASCII. So a
part of a lowered text that is lowered once more to a plain name is that name.
-/

namespace ImpactGraph.Text

/-! ## Characters -/

/-- What a lowered text never holds: the capitals of ASCII and the Kelvin sign, which are
all that maps into ASCII and is not its own lower-case form. -/
def IsCapital (c : Char) : Prop := ('A' ≤ c ∧ c ≤ 'Z') ∨ c = Char.ofNat 0x212A

instance : DecidablePred IsCapital := fun _ => inferInstanceAs (Decidable (_ ∨ _))

/-- A character that a name of a setting is made of: it is in ASCII and no capital. -/
def IsPlain (c : Char) : Prop := c.toNat < 128 ∧ ¬ IsCapital c

instance : DecidablePred IsPlain := fun _ => inferInstanceAs (Decidable (_ ∧ _))

/-- What a run maps to is a character beyond ASCII other than the Kelvin sign. -/
def CaseRun.IsOutside (run : CaseRun) : Prop :=
  128 ≤ run.first + run.shift ∧
    (run.last + run.shift < 0x212A ∨ 0x212A < run.first + run.shift) ∧
    (run.last + run.shift < 0xD800 ∨
      (0xE000 ≤ run.first + run.shift ∧ run.last + run.shift < 0x110000))

instance (run : CaseRun) : Decidable run.IsOutside := inferInstanceAs (Decidable (_ ∧ _))

/-- Of all runs only that of the Kelvin sign maps into ASCII. -/
theorem isOutside_of_mem :
    ∀ run ∈ caseRuns, (run.first = 0x212A ∧ run.last = 0x212A) ∨ run.IsOutside := by
  decide +kernel

theorem toNat_ofNat_of_isOutside {run : CaseRun} (h : run.IsOutside) {n : Nat}
    (hfirst : run.first ≤ n) (hlast : n ≤ run.last) :
    (Char.ofNat (n + run.shift).toNat).toNat = (n + run.shift).toNat := by
  obtain ⟨hascii, -, hvalid⟩ := h
  have hok : (n + run.shift).toNat.isValidChar := by
    unfold Nat.isValidChar
    omega
  rw [Char.ofNat, dif_pos hok]
  rfl

/-- Beyond ASCII only the Kelvin sign has its lower-case form in ASCII. -/
theorem lowerChar_outside {c : Char} (hc : 128 ≤ c.toNat)
    (hsign : c ≠ Char.ofNat 0x212A) :
    128 ≤ (lowerChar c).toNat ∧ lowerChar c ≠ Char.ofNat 0x212A := by
  rw [lowerChar, if_neg (by omega)]
  cases hrun : caseRuns.find? (·.covers c) with
  | none => exact ⟨hc, hsign⟩
  | some run =>
      have hcovers := List.find?_some hrun
      simp only [CaseRun.covers, Bool.and_eq_true, decide_eq_true_eq] at hcovers
      obtain ⟨⟨hfirst, hlast⟩, -⟩ := hcovers
      obtain ⟨hkelvin, hkelvin'⟩ | houtside :=
        isOutside_of_mem run (List.mem_of_find?_eq_some hrun)
      · refine absurd (Char.toNat_inj.1 ?_) hsign
        have hcode : (Char.ofNat 0x212A).toNat = 0x212A := rfl
        omega
      · have hcode := toNat_ofNat_of_isOutside houtside hfirst hlast
        obtain ⟨hascii, hother, -⟩ := houtside
        refine ⟨by dsimp only; omega, fun h => ?_⟩
        have hsame : (Char.ofNat (c.toNat + run.shift).toNat).toNat = 0x212A :=
          congrArg Char.toNat h
        omega

/-- In ASCII no lower-case form is a capital, and what is no capital stays. -/
theorem lowerChar_ascii : ∀ n < 128, IsPlain (lowerChar (Char.ofNat n)) ∧
    (¬ IsCapital (Char.ofNat n) → lowerChar (Char.ofNat n) = Char.ofNat n) := by
  decide

theorem lowerChar_kelvin : lowerChar (Char.ofNat 0x212A) = 'k' := by decide

theorem notCapital_lowerChar (c : Char) : ¬ IsCapital (lowerChar c) := by
  by_cases hc : c.toNat < 128
  · have h := (lowerChar_ascii c.toNat hc).1.2
    rwa [Char.ofNat_toNat] at h
  · by_cases hsign : c = Char.ofNat 0x212A
    · rw [hsign, lowerChar_kelvin]
      decide
    · obtain ⟨hascii, hother⟩ := lowerChar_outside (by omega) hsign
      rintro (⟨-, hz⟩ | h)
      · have hle : (lowerChar c).toNat ≤ 'Z'.toNat := hz
        have hz : 'Z'.toNat = 90 := rfl
        omega
      · exact hother h

/-- What is no capital and has its lower-case form in ASCII is that form. -/
theorem lowerChar_eq_self {c : Char} (hc : ¬ IsCapital c)
    (h : (lowerChar c).toNat < 128) : lowerChar c = c := by
  by_cases hascii : c.toNat < 128
  · have hself := (lowerChar_ascii c.toNat hascii).2
    rw [Char.ofNat_toNat] at hself
    exact hself hc
  · have := (lowerChar_outside (by omega) fun hsign => hc (.inr hsign)).1
    omega

theorem IsPlain.lowerChar_eq {c : Char} (h : IsPlain c) : lowerChar c = c := by
  have hself := (lowerChar_ascii c.toNat h.1).2
  rw [Char.ofNat_toNat] at hself
  exact hself h.2

/-! ## Texts -/

section Lowered

variable {back s t name : Text}

theorem lowerAfter_plain (h : ∀ c ∈ name, IsPlain c) : lowerAfter back name = name := by
  induction name generalizing back with
  | nil => rfl
  | cons c name ih =>
      obtain ⟨hc, hname⟩ := List.forall_mem_cons.1 h
      have hsigma : c ≠ 'Σ' := fun h => absurd (h ▸ hc) (by decide)
      have hdotted : c ≠ 'İ' := fun h => absurd (h ▸ hc) (by decide)
      rw [lowerAfter, if_neg hsigma, if_neg hdotted, hc.lowerChar_eq, ih hname]
      rfl

theorem lower_plain (h : ∀ c ∈ name, IsPlain c) : lower name = name := lowerAfter_plain h

/-- A plain name at the end of a text is still there when the text is lowered. -/
theorem exists_lowerAfter_append (h : ∀ c ∈ name, IsPlain c) (back s : Text) :
    ∃ front, lowerAfter back (s ++ name) = front ++ name := by
  induction s generalizing back with
  | nil => exact ⟨[], lowerAfter_plain h⟩
  | cons c s ih =>
      obtain ⟨front, hfront⟩ := ih (c :: back)
      exact ⟨_ ++ front, by rw [List.cons_append, lowerAfter, hfront, List.append_assoc]⟩

theorem exists_lower_append (h : ∀ c ∈ name, IsPlain c) (s : Text) :
    ∃ front, lower (s ++ name) = front ++ name := exists_lowerAfter_append h [] s

theorem forall_mem_lowerAfter (back t : Text) : ∀ c ∈ lowerAfter back t,
    ¬ IsCapital c := by
  induction t generalizing back with
  | nil => exact List.forall_mem_nil _
  | cons c t ih =>
      rw [lowerAfter, List.forall_mem_append]
      refine ⟨?_, ih _⟩
      split
      · split <;> decide
      · split
        · decide
        · simpa using notCapital_lowerChar c

theorem forall_mem_lower (t : Text) : ∀ c ∈ lower t, ¬ IsCapital c :=
  forall_mem_lowerAfter [] t

/-- A text without capitals whose lower-case form is a plain name is that name. -/
theorem eq_of_lowerAfter_eq (ht : ∀ c ∈ t, ¬ IsCapital c) (hname : ∀ c ∈ name, IsPlain c)
    (h : lowerAfter back t = name) : t = name := by
  induction t generalizing back name with
  | nil => exact h
  | cons c t ih =>
      obtain ⟨hc, ht⟩ := List.forall_mem_cons.1 ht
      rw [lowerAfter] at h
      split at h
      · -- Neither sigma is plain.
        subst h
        have := (List.forall_mem_append.1 hname).1
        split at this <;> exact absurd (this _ (List.mem_singleton_self _)) (by decide)
      · split at h
        · subst h
          exact absurd (hname (Char.ofNat 0x0307) (by simp)) (by decide)
        · subst h
          obtain ⟨hfirst, hrest⟩ := List.forall_mem_append.1 hname
          have hself := lowerChar_eq_self hc (hfirst _ (List.mem_singleton_self _)).1
          rw [hself, ← ih ht hrest rfl]
          rfl

theorem eq_of_lower_eq (ht : ∀ c ∈ t, ¬ IsCapital c) (hname : ∀ c ∈ name, IsPlain c)
    (h : lower t = name) : t = name := eq_of_lowerAfter_eq ht hname h

end Lowered

end ImpactGraph.Text
