/-!
# Answers that may be errors

What stands behind an answer: the answers it was made of, behind the error of a loop the
item that it stopped at, and behind what holds at the end of a loop what its steps keep.
-/

namespace ImpactGraph

section Failing

variable {ε α β : Type}

theorem ok_of_map_eq_ok {x : Except ε α} {g : α → β} {b : β} (h : x.map g = .ok b) :
    ∃ a, x = .ok a ∧ g a = b := by
  cases x with
  | error e => exact absurd h (by simp [Except.map])
  | ok a => exact ⟨a, rfl, Except.ok.inj h⟩

theorem ok_of_bind_eq_ok {x : Except ε α} {g : α → Except ε β} {b : β}
    (h : x >>= g = .ok b) : ∃ a, x = .ok a ∧ g a = .ok b := by
  cases x with
  | error e => exact absurd h (by simp [bind, Except.bind])
  | ok a => exact ⟨a, rfl, h⟩

theorem ok_of_toOption {x : Except ε α} {a : α} (h : x.toOption = some a) :
    x = .ok a := by
  cases x with
  | error e => exact absurd h nofun
  | ok b => exact congrArg Except.ok (Option.some.inj h)

/-- Every answer of a loop that comes to its end answers one of its items. -/
theorem exists_of_mem_mapM {g : α → Except ε β} {items : List α}
    {answers : List β} {b : β} (h : items.mapM g = .ok answers) (hb : b ∈ answers) :
    ∃ a ∈ items, g a = .ok b := by
  induction items generalizing answers with
  | nil =>
      rw [List.mapM_nil] at h
      rw [← Except.ok.inj h] at hb
      exact absurd hb List.not_mem_nil
  | cons a items ih =>
      rw [List.mapM_cons] at h
      obtain ⟨b', hb', h⟩ := ok_of_bind_eq_ok h
      obtain ⟨others, hothers, h⟩ := ok_of_bind_eq_ok h
      rw [← Except.ok.inj h] at hb
      rcases List.mem_cons.1 hb with rfl | hb
      · exact ⟨a, List.mem_cons_self, hb'⟩
      · obtain ⟨a', hmem, hanswer⟩ := ih hothers hb
        exact ⟨a', List.mem_cons_of_mem _ hmem, hanswer⟩

/-- The error that ends a loop is that of one of its items. -/
theorem exists_of_mapM_eq_error {g : α → Except ε β} {items : List α} {e : ε}
    (h : items.mapM g = .error e) : ∃ a ∈ items, g a = .error e := by
  induction items with
  | nil =>
      rw [List.mapM_nil] at h
      exact absurd h (by simp [pure, Except.pure])
  | cons a items ih =>
      rw [List.mapM_cons] at h
      cases ha : g a with
      | error e' =>
          rw [ha] at h
          have he : e' = e := Except.error.inj h
          exact ⟨a, List.mem_cons_self, he ▸ ha⟩
      | ok b =>
          rw [ha] at h
          cases hothers : items.mapM g with
          | error e' =>
              rw [hothers] at h
              have he : e' = e := Except.error.inj h
              obtain ⟨a', hmem, ha'⟩ := ih (he ▸ hothers)
              exact ⟨a', List.mem_cons_of_mem a hmem, ha'⟩
          | ok others =>
              rw [hothers] at h
              exact absurd h (by simp [bind, Except.bind, pure, Except.pure])

theorem exists_mapM_eq_error {g : α → Except ε β} {items : List α} {a : α} {e : ε}
    (ha : a ∈ items) (h : g a = .error e) : ∃ e', items.mapM g = .error e' := by
  induction items with
  | nil => exact absurd ha List.not_mem_nil
  | cons a' items ih =>
      rw [List.mapM_cons]
      cases ha' : g a' with
      | error e' => exact ⟨e', rfl⟩
      | ok b =>
          rcases List.mem_cons.1 ha with rfl | ha
          · exact absurd (h.symm.trans ha') (by simp)
          · obtain ⟨e', he⟩ := ih ha
            rw [he]
            exact ⟨e', rfl⟩

/-- A loop that ends in the same error at every item it has no answer for is answered when
each of its items is. -/
theorem mapM_eq_ite {g : α → Except ε β} {answer : α → β} {e : ε}
    {p : α → Prop} [DecidablePred p] {items : List α}
    (h : ∀ a ∈ items, g a = if p a then .ok (answer a) else .error e) :
    items.mapM g = if ∀ a ∈ items, p a then .ok (items.map answer) else .error e := by
  induction items with
  | nil => rfl
  | cons a items ih =>
      obtain ⟨ha, hitems⟩ := List.forall_mem_cons.1 h
      rw [List.mapM_cons, ha, ih hitems]
      by_cases hp : p a
      · by_cases hall : ∀ a ∈ items, p a
        · rw [if_pos hp, if_pos hall, if_pos (List.forall_mem_cons.2 ⟨hp, hall⟩)]
          rfl
        · rw [if_pos hp, if_neg hall, if_neg fun hcons =>
            hall (List.forall_mem_cons.1 hcons).2]
          rfl
      · rw [if_neg hp, if_neg fun hcons => hp (List.forall_mem_cons.1 hcons).1]
        rfl

theorem mapM_map {γ : Type} (f : α → Except ε β) (g : β → γ) (items : List α) :
    items.mapM (fun a => (f a).map g) = (items.mapM f).map (List.map g) := by
  induction items with
  | nil => rfl
  | cons a items ih =>
      rw [List.mapM_cons, List.mapM_cons, ih]
      cases f a with
      | error e => rfl
      | ok b => cases items.mapM f <;> rfl

theorem mapError_eq_ok_iff {ε' : Type} {x : Except ε α} {f : ε → ε'} {a : α} :
    x.mapError f = .ok a ↔ x = .ok a := by
  constructor
  · intro h
    cases x with
    | error cause => cases h
    | ok b => exact congrArg Except.ok (Except.ok.inj h)
  · rintro rfl
    rfl

theorem mapError_eq_error_iff {ε' : Type} {x : Except ε α} {f : ε → ε'} {e : ε'} :
    x.mapError f = .error e ↔ ∃ cause, x = .error cause ∧ f cause = e := by
  constructor
  · intro h
    cases x with
    | error cause => exact ⟨cause, rfl, Except.error.inj h⟩
    | ok b => cases h
  · rintro ⟨cause, rfl, rfl⟩
    rfl

theorem map_eq_error_iff {x : Except ε α} {g : α → β} {e : ε} :
    x.map g = .error e ↔ x = .error e := by
  cases x <;> simp [Except.map]

end Failing

section Loops

variable {σ α : Type} {step : σ → α → Option σ} {P : σ → Prop} {items : List α} {s s' : σ}

/-- What every step of a loop keeps holds at its end. -/
theorem of_foldlM (hstep : ∀ s a s', a ∈ items → P s → step s a = some s' → P s')
    (hs : P s) (h : items.foldlM step s = some s') : P s' := by
  induction items generalizing s with
  | nil => exact Option.some.inj h ▸ hs
  | cons a items ih =>
      rw [List.foldlM_cons] at h
      obtain ⟨next, hnext, h⟩ := Option.bind_eq_some_iff.1 h
      exact ih (fun s b s' hb => hstep s b s' (List.mem_cons_of_mem a hb))
        (hstep s a next List.mem_cons_self hs hnext) h

/-- What one step of a loop brings about and every other keeps holds at its end. -/
theorem of_mem_foldlM {a : α} (ha : a ∈ items)
    (hmakes : ∀ s s', step s a = some s' → P s')
    (hstep : ∀ s a s', P s → step s a = some s' → P s')
    (h : items.foldlM step s = some s') : P s' := by
  obtain ⟨front, rear, rfl⟩ := List.append_of_mem ha
  rw [List.foldlM_append] at h
  obtain ⟨before, -, h⟩ := Option.bind_eq_some_iff.1 h
  rw [List.foldlM_cons] at h
  obtain ⟨after, hafter, h⟩ := Option.bind_eq_some_iff.1 h
  exact of_foldlM (fun s b s' _ => hstep s b s') (hmakes before after hafter) h

end Loops

end ImpactGraph
