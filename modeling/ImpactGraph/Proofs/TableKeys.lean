import ImpactGraph.Proofs.Answers
import ImpactGraph.Proofs.AssignedFields
import ImpactGraph.Toml.Reader

/-!
# The keys of tables

The rules of a settings file let no field be written twice. Whatever is added to a
document, at its top, in a table or in an item of a list, no table of it gets a key that
it has already; the same goes for inline tables. What a table gives for a key is then one
value, whichever way it is looked for.
-/

namespace ImpactGraph.Toml

/-- A value in which no table has a key twice. -/
inductive IsKeyed : Value → Prop
  | plain {v : Value} (h : isClosing v = false) : IsKeyed v
  | list {items : List Value} (h : ∀ v ∈ items, IsKeyed v) : IsKeyed (.list items)
  | table {fields : Fields} (hkeys : (fields.map (·.1)).Nodup) (h :
      ∀ f ∈ fields, IsKeyed f.2) :
      IsKeyed (.table fields)

/-! ## Changes of a table -/

section Changed

variable {fields result inner : Fields} {items : List Value} {key : Key}
  {name : Text} {v : Value}

theorem IsKeyed.empty : IsKeyed (.table []) := .table .nil (List.forall_mem_nil _)

theorem IsKeyed.nodup_keys (h : IsKeyed (.table fields)) : (fields.map (·.1)).Nodup := by
  cases h with
  | plain h => exact absurd h nofun
  | table hkeys h => exact hkeys

theorem IsKeyed.forall_mem (h : IsKeyed (.table fields)) : ∀ f ∈ fields, IsKeyed f.2 := by
  cases h with
  | plain h => exact absurd h nofun
  | table hkeys h => exact h

theorem IsKeyed.forall_mem_items (h : IsKeyed (.list items)) :
    ∀ v ∈ items, IsKeyed v := by
  cases h with
  | plain h => exact absurd h nofun
  | list h => exact h

theorem IsKeyed.of_lookup (h : IsKeyed (.table fields))
    (hv : fields.lookup name = some v) : IsKeyed v := by
  obtain ⟨front, rear, rfl, -⟩ := List.lookup_eq_some_iff.1 hv
  exact h.forall_mem _ (List.mem_append_right front List.mem_cons_self)

theorem IsKeyed.setField (h : IsKeyed (.table fields)) (name : Text) (hv : IsKeyed v) :
    IsKeyed (.table (Value.setField fields name v)) := by
  refine .table (nodup_assign h.nodup_keys name v) fun f hf => ?_
  obtain hf | rfl := mem_assign hf
  · exact h.forall_mem f hf
  · exact hv

theorem IsKeyed.addNew (h : IsKeyed (.table fields)) (hnew : fields.lookup name = none)
    (hv : IsKeyed v) : IsKeyed (.table (fields ++ [(name, v)])) := by
  have hset : fields ++ [(name, v)] = Value.setField fields name v := by
    rw [setField_eq, assign, if_neg]
    intro hany
    obtain ⟨f, hf, hkey⟩ := List.any_eq_true.1 hany
    exact bne_iff_ne.1 (List.lookup_eq_none_iff.1 hnew f hf) (of_decide_eq_true hkey).symm
  exact hset ▸ h.setField name hv

/-- A change of one table in a value changes no other. -/
theorem IsKeyed.changeAt {lists : Bool} {change : Fields → Option Fields}
    (hchange : ∀ {inner result : Fields}, change inner = some result →
      IsKeyed (.table inner) → IsKeyed (.table result))
    (h : IsKeyed (.table fields))
    (hresult : changeAt lists change key fields = some result) :
    IsKeyed (.table result) := by
  induction key generalizing fields result with
  | nil => exact hchange hresult h
  | cons name key ih =>
      rw [Toml.changeAt] at hresult
      split at hresult
      · obtain ⟨inner, hinner, rfl⟩ := Option.map_eq_some_iff.1 hresult
        exact h.setField name (ih .empty hinner)
      · rename_i below hbelow
        obtain ⟨inner, hinner, rfl⟩ := Option.map_eq_some_iff.1 hresult
        exact h.setField name (ih (h.of_lookup hbelow) hinner)
      · rename_i items hitems
        split at hresult
        · rename_i below hlast
          obtain ⟨inner, hinner, rfl⟩ := Option.map_eq_some_iff.1 hresult
          have hkeyed := (h.of_lookup hitems).forall_mem_items
          refine h.setField name (.list fun v hv => ?_)
          obtain hv | hv := List.mem_append.1 hv
          · exact hkeyed v (items.dropLast_subset hv)
          · rw [List.mem_singleton.1 hv]
            exact ih (hkeyed _ (List.mem_of_getLast? hlast)) hinner
        · exact absurd hresult nofun
      · exact absurd hresult nofun

theorem IsKeyed.addField {lists : Bool} (h : IsKeyed (.table fields)) (hv : IsKeyed v)
    (hresult : addField lists key v fields = some result) : IsKeyed (.table result) := by
  refine IsKeyed.changeAt (fun {inner result} hinner hkeyed => ?_) h hresult
  dsimp only at hinner
  split at hinner
  · exact absurd hinner nofun
  · rename_i hnew
    rw [← Option.some.inj hinner]
    exact hkeyed.addNew (Option.not_isSome_iff_eq_none.1 hnew) hv

theorem IsKeyed.addListItem (h : IsKeyed (.table fields))
    (hresult : addListItem key fields = some result) : IsKeyed (.table result) := by
  have hitem : IsKeyed (.list [.table []]) := .list (by simpa using IsKeyed.empty)
  refine IsKeyed.changeAt (fun {inner result} hinner hkeyed => ?_) h hresult
  dsimp only at hinner
  split at hinner
  · rename_i hnew
    rw [← Option.some.inj hinner]
    exact hkeyed.addNew hnew hitem
  · rename_i items hitems
    rw [← Option.some.inj hinner]
    refine hkeyed.setField _ (.list fun v hv => ?_)
    obtain hv | hv := List.mem_append.1 hv
    · exact (hkeyed.of_lookup hitems).forall_mem_items v hv
    · exact hitem.forall_mem_items v hv
  · exact absurd hinner nofun

end Changed

/-! ## Scalars -/

section Scalars

variable {negative : Bool} {t rest : Text} {v : Value}

theorem must_eq_ok_iff {α : Type} {r : Reading α} {a : α × Text} :
    must r = .ok a ↔ r = some a := by
  cases r <;> simp [must]

theorem isClosing_of_basedNumber (h : basedNumber? t = some (v, rest)) :
    isClosing v = false := by
  unfold basedNumber? at h
  split at h
  iterate 3
    · obtain ⟨digits, -, hdigits⟩ := Option.map_eq_some_iff.1 h
      rw [← (Prod.mk.inj hdigits).1]
      rfl
  · exact absurd h nofun

theorem isClosing_of_unsignedNumber
    (h : unsignedNumber? negative t = some (.ok (v, rest))) : isClosing v = false := by
  obtain ⟨⟨whole, behind⟩, -, hnumber⟩ := Option.map_eq_some_iff.1 h
  dsimp only at hnumber
  split at hnumber
  · split at hnumber
    · exact absurd hnumber nofun
    · rw [← (Prod.mk.inj (Except.ok.inj hnumber)).1]
      rfl
  · rw [← (Prod.mk.inj (Except.ok.inj hnumber)).1]
    rfl

theorem isClosing_of_specialNumber (h : specialNumber? negative t = some (v, rest)) :
    isClosing v = false := by
  unfold specialNumber? at h
  split at h
  iterate 2
    · rw [← (Prod.mk.inj (Option.some.inj h)).1]
      rfl
  · exact absurd h nofun

theorem isClosing_of_number (h : number t = .ok (v, rest)) : isClosing v = false := by
  unfold number at h
  dsimp only at h
  split at h
  · rename_i hbased
    exact isClosing_of_basedNumber (hbased.trans (congrArg some (Except.ok.inj h)))
  · cases hnumber : unsignedNumber? (t.head? = some '-')
        (if t.head? = some '-' || t.head? = some '+' then t.tail else t) with
    | none =>
        rw [hnumber] at h
        exact isClosing_of_specialNumber (must_eq_ok_iff.1 h)
    | some answer =>
        rw [hnumber] at h
        exact isClosing_of_unsignedNumber (hnumber.trans (congrArg some h))

theorem isClosing_of_moment (h : moment? t = some (.ok (v, rest))) :
    isClosing v = false := by
  unfold moment? at h
  split at h
  · have h := Option.some.inj h
    split at h
    · rw [← (Prod.mk.inj (Except.ok.inj h)).1]
      rfl
    · exact absurd h nofun
  · obtain ⟨behind, -, hmoment⟩ := Option.map_eq_some_iff.1 h
    rw [← (Prod.mk.inj (Except.ok.inj hmoment)).1]
    rfl

theorem isClosing_of_scalar (h : scalar t = .ok (v, rest)) : isClosing v = false := by
  unfold scalar at h
  split at h
  iterate 2
    · obtain ⟨read, -, hread⟩ := ok_of_map_eq_ok h
      rw [← (Prod.mk.inj hread).1]
      rfl
  iterate 2
    · rw [← (Prod.mk.inj (Except.ok.inj h)).1]
      rfl
  · cases hmoment : moment? t with
    | none => exact isClosing_of_number (by rwa [hmoment] at h)
    | some answer =>
        rw [hmoment] at h
        exact isClosing_of_moment (hmoment.trans (congrArg some h))

end Scalars

/-! ## Inline tables -/

mutual

/-- No table in a value that is read has a key twice. -/
theorem isKeyed_of_value {t rest : Text} {v : Value} (h : value t = .ok (v, rest)) :
    IsKeyed v := by
  rw [value.eq_def] at h
  split at h
  · split at h
    · rw [← (Prod.mk.inj (Except.ok.inj h)).1]
      exact .list (List.forall_mem_nil _)
    · split at h
      · obtain ⟨r, hitems, hv⟩ := ok_of_map_eq_ok h
        rw [← (Prod.mk.inj hv).1]
        exact .list (isKeyed_of_items hitems)
      · exact absurd h nofun
    · exact absurd h nofun
  · split at h
    · rw [← (Prod.mk.inj (Except.ok.inj h)).1]
      exact .empty
    · split at h
      · obtain ⟨r, hpairs, hv⟩ := ok_of_map_eq_ok h
        rw [← (Prod.mk.inj hv).1]
        exact isKeyed_of_pairs .empty hpairs
      · exact absurd h nofun
  · exact .plain (isClosing_of_scalar h)
termination_by (t.length, 0)

theorem isKeyed_of_items {t : Text} {r : List Value × Text} (h : items t = .ok r) :
    ∀ v ∈ r.1, IsKeyed v := by
  rw [items.eq_def] at h
  split at h
  · exact absurd h nofun
  · rename_i v rest hv
    have hkeyed := isKeyed_of_value hv
    split at h
    · rw [← Except.ok.inj h]
      exact List.forall_mem_singleton.2 hkeyed
    · split at h
      · rw [← Except.ok.inj h]
        exact List.forall_mem_singleton.2 hkeyed
      · split at h
        · obtain ⟨r, hitems, rfl⟩ := ok_of_map_eq_ok h
          exact List.forall_mem_cons.2 ⟨hkeyed, isKeyed_of_items hitems⟩
        · exact absurd h nofun
      · exact absurd h nofun
    · exact absurd h nofun
termination_by (t.length, 2)

theorem isKeyed_of_pairs {marks : Marks} {fields : Fields} {t : Text} {r : Fields × Text}
    (hfields : IsKeyed (.table fields)) (h : pairs marks fields t = .ok r) :
    IsKeyed (.table r.1) := by
  rw [pairs.eq_def] at h
  split at h
  · rename_i key more hkey
    dsimp only at h
    split at h
    · split at h
      · exact absurd h nofun
      · rename_i v rest hv
        split at h
        · exact absurd h nofun
        · rename_i added hadded
          split at hadded
          · exact absurd hadded nofun
          · have hadded := hfields.addField (isKeyed_of_value hv) hadded
            split at h
            · rw [← Except.ok.inj h]
              exact hadded
            · split at h
              · exact isKeyed_of_pairs hadded h
              · exact absurd h nofun
            · exact absurd h nofun
    · exact absurd h nofun
  · exact absurd h nofun
termination_by (t.length, 1)

end

/-! ## Documents -/

namespace Document

variable {d d' : Document} {key : Key} {v : Value} {t rest : Text}

/-- A document in which no table has a key twice. -/
def IsKeyed (d : Document) : Prop := Toml.IsKeyed (.table d.fields)

theorem IsKeyed.openTable (h : d.IsKeyed) (hopened : d.openTable key = some d') :
    d'.IsKeyed := by
  unfold Document.openTable at hopened
  dsimp only at hopened
  split at hopened
  · exact absurd hopened nofun
  · obtain ⟨fields, hfields, rfl⟩ := Option.map_eq_some_iff.1 hopened
    refine Toml.IsKeyed.changeAt (fun hsame hinner => ?_) h hfields
    exact Option.some.inj hsame ▸ hinner

theorem IsKeyed.openItem (h : d.IsKeyed) (hopened : d.openItem key = some d') :
    d'.IsKeyed := by
  unfold Document.openItem at hopened
  split at hopened
  · exact absurd hopened nofun
  · obtain ⟨fields, hfields, rfl⟩ := Option.map_eq_some_iff.1 hopened
    exact Toml.IsKeyed.addListItem h hfields

theorem IsKeyed.addPair (h : d.IsKeyed) (hv : Toml.IsKeyed v)
    (hadded : d.addPair key v = some d') : d'.IsKeyed := by
  unfold Document.addPair at hadded
  dsimp only at hadded
  split at hadded
  · exact absurd hadded nofun
  · split at hadded
    · exact absurd hadded nofun
    · obtain ⟨fields, hfields, rfl⟩ := Option.map_eq_some_iff.1 hadded
      exact Toml.IsKeyed.addField h hv hfields

theorem IsKeyed.header (h : d.IsKeyed) (hread : d.header? t = some (d', rest)) :
    d'.IsKeyed := by
  unfold Document.header? at hread
  dsimp only at hread
  have hsettled : IsKeyed { d with marks := d.marks.settle } := h
  split at hread
  · split at hread
    · obtain ⟨opened, hopened, hd⟩ := Option.map_eq_some_iff.1 hread
      rw [← (Prod.mk.inj hd).1]
      exact hsettled.openItem hopened
    · exact absurd hread nofun
  · split at hread
    · obtain ⟨opened, hopened, hd⟩ := Option.map_eq_some_iff.1 hread
      rw [← (Prod.mk.inj hd).1]
      exact hsettled.openTable hopened
    · exact absurd hread nofun
  · exact absurd hread nofun

theorem IsKeyed.pair (h : d.IsKeyed) (hread : d.pair t = .ok (d', rest)) :
    d'.IsKeyed := by
  unfold Document.pair at hread
  split at hread
  · split at hread
    · rename_i v behind hv
      obtain ⟨added, hadded, hd⟩ := Option.map_eq_some_iff.1 (must_eq_ok_iff.1 hread)
      rw [← (Prod.mk.inj hd).1]
      exact h.addPair (isKeyed_of_value hv) hadded
    · exact absurd hread nofun
  · exact absurd hread nofun

/-- One statement keeps the tables of a document keyed. -/
theorem IsKeyed.statement (h : d.IsKeyed) (hread : d.statement t = .ok (d', rest)) :
    d'.IsKeyed := by
  unfold Document.statement at hread
  split at hread
  · exact (Prod.mk.inj (Except.ok.inj hread)).1 ▸ h
  · split at hread
    · exact (Prod.mk.inj (Except.ok.inj hread)).1 ▸ h
    · split at hread
      · exact h.header (must_eq_ok_iff.1 hread)
      · exact h.pair hread

/-- And so do all statements of a text. -/
theorem IsKeyed.readFrom {d d' : Document} {t : Text} (h : d.IsKeyed)
    (hread : d.readFrom t = .ok d') : d'.IsKeyed := by
  rw [Document.readFrom.eq_def] at hread
  split at hread
  · cases hread
  · rename_i next behind hnext
    have hkeyed := h.statement hnext
    split at hread
    · exact Except.ok.inj hread ▸ hkeyed
    · split at hread
      · exact IsKeyed.readFrom hkeyed hread
      · cases hread
    · cases hread
termination_by t.length

end Document

/-- No table of a settings file has a key twice, nor has the file itself. -/
theorem isKeyed_of_read {t : Text} {fields : Fields} (h : read t = .ok fields) :
    IsKeyed (.table fields) := by
  obtain ⟨d, hd, rfl⟩ := ok_of_map_eq_ok h
  exact Document.IsKeyed.readFrom (d := {}) IsKeyed.empty hd

/-! ## Documents of one line -/

section Lines

variable {d d' : Document} {t more rest : Text} {key : Key} {c : Char} {v : Value}

theorem value_eq_scalar (hlist : c ≠ '[') (htable : c ≠ '\x7b') (t : Text) :
    value (c :: t) = scalar (c :: t) := by
  rw [value.eq_def]
  split
  · rename_i h
    exact absurd (List.cons.inj h).1 hlist
  · rename_i h
    exact absurd (List.cons.inj h).1 htable
  · rfl

theorem pair_of_scalar (hkey : key? t = some (key, '=' :: more))
    (hmore : dropGaps more = c :: rest) (hlist : c ≠ '[') (htable : c ≠ '\x7b')
    (hv : scalar (c :: rest) = .ok (v, ['\n'])) (hadded : d.addPair key v = some d') :
    d.pair t = .ok (d', ['\n']) := by
  have hvalue : value (dropGaps more) = .ok (v, ['\n']) := by
    rw [hmore, value_eq_scalar hlist htable, hv]
  unfold Document.pair
  simp only [hkey, hvalue]
  rw [hadded]
  rfl

/-- A document of one line holds what its statement writes. -/
theorem readFrom_line (ht : t ≠ []) (h : d.statement (dropGaps t) = .ok (d', ['\n'])) :
    d.readFrom t = .ok d' := by
  have hend : d'.readFrom [] = .ok d' := by
    rw [Document.readFrom.eq_def]
    rfl
  rw [Document.readFrom.eq_def, h]
  change (if _h : ([] : Text).length < t.length then d'.readFrom [] else _) = _
  have hlt : ([] : Text).length < t.length := List.length_pos_iff.2 ht
  rw [dif_pos hlt, hend]

end Lines

end ImpactGraph.Toml
