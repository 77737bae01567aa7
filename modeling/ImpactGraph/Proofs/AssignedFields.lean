import Mathlib.Data.List.Nodup
import ImpactGraph.Value

/-!
# Fields that are set one after another

A field is set in its place when its key is there, else at the end. So no key comes twice,
and the last value that was set for a key counts.
-/

namespace ImpactGraph

/-- Fields with one of them set: in its place when the key is there, else at the end. -/
def assign {β : Type} (fields : List (Text × β)) (key : Text) (v : β) : List (Text × β) :=
  if fields.any (·.1 = key) then fields.map fun f => if f.1 = key then (key, v) else f
  else fields ++ [(key, v)]

theorem setField_eq (fields : List (Text × Value)) (key : Text) (v : Value) :
    Value.setField fields key v = assign fields key v := rfl

section Assigned

variable {β : Type} {fields : List (Text × β)} {key : Text} {v : β}

theorem keys_assign (fields : List (Text × β)) (key : Text) (v : β) :
    (assign fields key v).map (·.1) =
      if key ∈ fields.map (·.1) then fields.map (·.1) else fields.map (·.1) ++ [key] := by
  have hany : fields.any (·.1 = key) = true ↔ key ∈ fields.map (·.1) := by
    simp only [List.any_eq_true, decide_eq_true_eq, List.mem_map]
  unfold assign
  by_cases hkey : key ∈ fields.map (·.1)
  · rw [if_pos hkey, if_pos (hany.2 hkey), List.map_map]
    refine List.map_congr_left fun f _ => ?_
    rw [Function.comp_apply]
    split
    · exact Eq.symm ‹_›
    · rfl
  · rw [if_neg hkey, if_neg (mt hany.1 hkey), List.map_append]
    rfl

theorem lookup_cons_ite (f : Text × β) (fields : List (Text × β)) (key : Text) :
    (f :: fields).lookup key = if key = f.1 then some f.2 else fields.lookup key := by
  by_cases h : key = f.1
  · rw [if_pos h, List.lookup_cons, beq_iff_eq.2 h]
  · rw [if_neg h, List.lookup_cons, beq_false_of_ne h]

theorem lookup_append_single (fields : List (Text × β)) (key name : Text) (v : β) :
    (fields ++ [(key, v)]).lookup name =
      (fields.lookup name).or (if name = key then some v else none) := by
  rw [List.lookup_append, lookup_cons_ite, List.lookup_nil]

theorem lookup_eq_none (h : key ∉ fields.map (·.1)) : fields.lookup key = none :=
  List.lookup_eq_none_iff.2 fun _ hf => bne_iff_ne.2 fun he =>
    h (he ▸ List.mem_map_of_mem hf)

/-- Where no key comes twice, every field is found under its key. -/
theorem lookup_of_mem (hkeys : (fields.map (·.1)).Nodup) (h : (key, v) ∈ fields) :
    fields.lookup key = some v := by
  induction fields with
  | nil => exact absurd h List.not_mem_nil
  | cons f fields ih =>
      rw [List.map_cons, List.nodup_cons] at hkeys
      rw [lookup_cons_ite]
      obtain rfl | h := List.mem_cons.1 h
      · rw [if_pos rfl]
      · rw [if_neg fun he => hkeys.1 (List.mem_map.2 ⟨_, h, he⟩), ih hkeys.2 h]

theorem lookup_replaced {other : Text} (hne : other ≠ key)
    (fields : List (Text × β)) (v : β) :
    (fields.map fun f => if f.1 = key then (key, v) else f).lookup other =
      fields.lookup other := by
  induction fields with
  | nil => rfl
  | cons f fields ih =>
      rw [List.map_cons, lookup_cons_ite, lookup_cons_ite, ih]
      by_cases hf : f.1 = key
      · rw [if_pos hf, if_neg hne, if_neg fun h => hne (h.trans hf)]
      · rw [if_neg hf]

theorem lookup_assign (fields : List (Text × β)) (key other : Text) (v : β) :
    (assign fields key v).lookup other = if other = key then some v else
      fields.lookup other := by
  induction fields with
  | nil => rw [show assign [] key v = [(key, v)] from rfl, lookup_cons_ite]
  | cons f fields ih =>
      by_cases hf : f.1 = key
      · have hset : assign (f :: fields) key v =
            (key, v) :: fields.map (fun f => if f.1 = key then (key, v) else f) := by
          simp [assign, hf]
        rw [hset, lookup_cons_ite, lookup_cons_ite, hf]
        by_cases hother : other = key
        · rw [if_pos hother, if_pos hother]
        · rw [if_neg hother, if_neg hother, if_neg hother, lookup_replaced hother]
      · have hset : assign (f :: fields) key v = f :: assign fields key v := by
          by_cases hany : fields.any (·.1 = key) = true <;> simp [assign, hf, hany]
        rw [hset, lookup_cons_ite, lookup_cons_ite, ih]
        by_cases hother : other = key
        · rw [if_neg fun h => hf (h.symm.trans hother), if_pos hother, if_pos hother]
        · rw [if_neg hother, if_neg hother]

theorem lookup_setField (fields : List (Text × Value)) (key other : Text) (v : Value) :
    (Value.setField fields key v).lookup other = if other = key then some v else
      fields.lookup other :=
  lookup_assign fields key other v

theorem nodup_assign (h : (fields.map (·.1)).Nodup) (key : Text) (v : β) :
    ((assign fields key v).map (·.1)).Nodup := by
  rw [keys_assign]
  split
  · exact h
  · rename_i hkey
    rw [← List.concat_eq_append, List.nodup_concat]
    exact ⟨hkey, h⟩

theorem mem_assign {f : Text × β} (h : f ∈ assign fields key v) :
    f ∈ fields ∨ f = (key, v) := by
  unfold assign at h
  split at h
  · obtain ⟨g, hg, rfl⟩ := List.mem_map.1 h
    split
    · exact .inr rfl
    · exact .inl hg
  · simpa using h

theorem filter_replaced (p : Text → Bool) (fields : List (Text × β))
    (key : Text) (v : β) :
    (fields.map fun f => if f.1 = key then (key, v) else f).filter (p ·.1) =
      (fields.filter (p ·.1)).map fun f => if f.1 = key then (key, v) else f := by
  have hsame (f : Text × β) : (if f.1 = key then (key, v) else f).1 = f.1 := by
    split
    · exact Eq.symm ‹_›
    · rfl
  rw [List.filter_map]
  congr 2
  funext f
  rw [Function.comp_apply, hsame]

theorem filter_assign_of_neg {p : Text → Bool} (hkey : p key = false)
    (fields : List (Text × β)) (v : β) : (assign fields key v).filter (p ·.1) =
      fields.filter (p ·.1) := by
  unfold assign
  split
  · rw [filter_replaced]
    refine (List.map_congr_left fun f hf => ?_).trans (List.map_id _)
    have hne : f.1 ≠ key :=
      fun h => Bool.false_ne_true (hkey.symm.trans (h ▸ (List.mem_filter.1 hf).2))
    exact if_neg hne
  · rw [List.filter_append, List.filter_cons_of_neg (by simpa using hkey),
      List.filter_nil, List.append_nil]

theorem filter_assign_of_pos {p : Text → Bool} (hkey : p key = true)
    (fields : List (Text × β)) (v : β) : (assign fields key v).filter (p ·.1) =
      assign (fields.filter (p ·.1)) key v := by
  have hany : (fields.filter (p ·.1)).any (·.1 = key) = fields.any (·.1 = key) := by
    rw [List.any_filter]
    congr 1
    funext f
    by_cases hf : f.1 = key <;> simp [hf, hkey]
  unfold assign
  rw [hany]
  split
  · exact filter_replaced p fields key v
  · rw [List.filter_append, List.filter_singleton, hkey, cond_true]

end Assigned

/-! ## The last of several fields -/

section Last

variable {β : Type} {p : Text → Bool} {fields : List (Text × β)}
  {key other : Text} {v w : β}

/-- The value of the last field whose key is one of some. -/
def lastOf? (p : Text → Bool) (fields : List (Text × β)) : Option β :=
  (fields.filter (p ·.1)).getLast?.map (·.2)

theorem lastOf?_cons (f : Text × β) (fields : List (Text × β)) :
    lastOf? p (f :: fields) =
      (lastOf? p fields).or (if p f.1 then some f.2 else none) := by
  unfold lastOf?
  cases hf : p f.1 with
  | false => simp [hf]
  | true =>
      rw [List.filter_cons, if_pos hf, List.getLast?_cons]
      cases (fields.filter (p ·.1)).getLast? <;> rfl

theorem lastOf?_assign_of_neg (hkey : p key = false) (fields : List (Text × β)) (v : β) :
    lastOf? p (assign fields key v) = lastOf? p fields := by
  rw [lastOf?, filter_assign_of_neg hkey, lastOf?]

theorem lastOf?_assign_assign (hkey : p key = false) (hother : p other = true)
    (fields : List (Text × β)) (v w : β) :
    lastOf? p (assign (assign fields key v) other w) =
      lastOf? p (assign fields other w) := by
  rw [lastOf?, lastOf?, filter_assign_of_pos hother, filter_assign_of_pos hother,
    filter_assign_of_neg hkey]

/-- A value that is set is the last or it stands before the last, whatever it is. -/
theorem lastOf?_assign_cases (hkey : p key = true) (fields : List (Text × β)) :
    (∀ v, lastOf? p (assign fields key v) = some v) ∨
      ∀ v, lastOf? p (assign fields key v) = lastOf? p fields := by
  unfold lastOf?
  simp only [filter_assign_of_pos hkey]
  unfold assign
  by_cases hany : (fields.filter (p ·.1)).any (·.1 = key) = true
  · cases hlast : (fields.filter (p ·.1)).getLast? with
    | none => simp [List.getLast?_eq_none_iff.1 hlast] at hany
    | some last =>
        by_cases hsame : last.1 = key
        · left
          intro v
          rw [if_pos hany, List.getLast?_map, hlast, Option.map_some, if_pos hsame]
          rfl
        · right
          intro v
          rw [if_pos hany, List.getLast?_map, hlast, Option.map_some, if_neg hsame]
  · left
    intro v
    rw [if_neg hany, List.getLast?_append]
    rfl

/-- Where each key comes once and only one of them counts, its value is the last. -/
theorem lastOf?_eq_lookup (hkeys : (fields.map (·.1)).Nodup) (hkey : p key = true)
    (hone : ∀ f ∈ fields, p f.1 = true → f.1 = key) :
    lastOf? p fields = fields.lookup key := by
  induction fields with
  | nil => rfl
  | cons f fields ih =>
      obtain ⟨hf, hone⟩ := List.forall_mem_cons.1 hone
      rw [List.map_cons, List.nodup_cons] at hkeys
      rw [lastOf?_cons, ih hkeys.2 hone, lookup_cons_ite]
      by_cases hkey' : key = f.1
      · rw [if_pos hkey', if_pos (hkey' ▸ hkey), lookup_eq_none (hkey' ▸ hkeys.1),
          Option.none_or]
      · rw [if_neg hkey', if_neg fun h => hkey' (hf h).symm, Option.or_none]

/-- Of all values that are set for a key the last counts. -/
theorem lookup_foldl_assign (name : Text → Text) (given fields : List (Text × β))
    (key : Text) :
    (given.foldl (fun seen f => assign seen (name f.1) f.2) fields).lookup key =
      (lastOf? (name · = key) given).or (fields.lookup key) := by
  induction given generalizing fields with
  | nil => rfl
  | cons f given ih =>
      rw [List.foldl_cons, ih, lookup_assign, lastOf?_cons, Option.or_assoc]
      by_cases hf : name f.1 = key
      · simp [hf]
      · simp [hf, Ne.symm hf]

theorem nodup_foldl_assign (name : Text → Text) (given : List (Text × β))
    (h : (fields.map (·.1)).Nodup) :
    ((given.foldl (fun seen f =>
      assign seen (name f.1) f.2) fields).map (·.1)).Nodup := by
  induction given generalizing fields with
  | nil => exact h
  | cons f given ih => exact ih (nodup_assign h _ _)

theorem mem_foldl_assign {name : Text → Text} {given : List (Text × β)} {f : Text × β}
    (h : f ∈ given.foldl (fun seen f => assign seen (name f.1) f.2) fields) :
    f ∈ fields ∨ ∃ g ∈ given, f = (name g.1, g.2) := by
  induction given generalizing fields with
  | nil => exact .inl h
  | cons g given ih =>
      obtain hf | ⟨g', hg', hf⟩ := ih h
      · obtain hf | hf := mem_assign hf
        · exact .inl hf
        · exact .inr ⟨g, List.mem_cons_self, hf⟩
      · exact .inr ⟨g', List.mem_cons_of_mem g hg', hf⟩

end Last

end ImpactGraph
