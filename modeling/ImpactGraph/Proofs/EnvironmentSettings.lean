import ImpactGraph.Proofs.Answers
import ImpactGraph.Proofs.AssignedFields
import ImpactGraph.Proofs.CheckedSettings
import ImpactGraph.Proofs.LoweredText
import ImpactGraph.Settings.Environment
import ImpactGraph.Text.Lemmas

/-!
# What the environment says about a setting

The variables of an environment are taken in one after another, and those below a section
build a table that may be any: a variable can be named as if a field were a section
itself. For a single setting all of this comes down to two variables, that of the section
and its own, and of each the last that counts. Its own variable is the only one that turns
up a value at its place; what the others can leave there is a table, and no check takes
that.
-/

namespace ImpactGraph

open Text

/-! ## Parts of names -/

section Parts

variable {sep t piece : Text}

theorem mem_of_mem_splitAtText {t piece : Text} (h : piece ∈ splitAtText sep t) :
    ∀ c ∈ piece, c ∈ t := by
  rw [splitAtText] at h
  split at h
  · rw [List.mem_singleton.1 h]
    exact fun c hc => hc
  · rename_i parts hcut
    have ht := cut_eq_some hcut
    obtain rfl | h := List.mem_cons.1 h
    · intro c hc
      rw [ht]
      simp [hc]
    · split at h
      · intro c hc
        rw [ht]
        exact List.mem_append_right _ (mem_of_mem_splitAtText h c hc)
      · exact absurd h List.not_mem_nil
termination_by t.length

theorem cutAtMost_succ (sep : Text) (n : Nat) (t : Text) :
    Manner.cutAtMost sep (n + 1) t =
    match cut sep t with
    | some (first, rest) => first :: Manner.cutAtMost sep n rest
    | none => [t] := rfl

theorem mem_of_mem_cutAtMost {n : Nat} (h : piece ∈ Manner.cutAtMost sep n t) :
    ∀ c ∈ piece, c ∈ t := by
  induction n generalizing t with
  | zero =>
      rw [List.mem_singleton.1 h]
      exact fun c hc => hc
  | succ n ih =>
      rw [cutAtMost_succ] at h
      split at h
      · rename_i first rest hcut
        rw [cut_eq_some hcut]
        obtain rfl | h := List.mem_cons.1 h
        · intro c hc
          simp [hc]
        · exact fun c hc => List.mem_append_right _ (ih h c hc)
      · rw [List.mem_singleton.1 h]
        exact fun c hc => hc

theorem splitAtText_ne_nil (sep t : Text) : splitAtText sep t ≠ [] := by
  rw [splitAtText]
  split <;> exact List.cons_ne_nil _ _

theorem cutAtMost_ne_nil (sep : Text) (n : Nat) (t : Text) :
    Manner.cutAtMost sep n t ≠ [] := by
  cases n with
  | zero => exact List.cons_ne_nil _ _
  | succ n =>
      rw [cutAtMost_succ]
      split <;> exact List.cons_ne_nil _ _

theorem parts_ne_nil (m : Manner) (t : Text) : m.parts t ≠ [] := by
  unfold Manner.parts
  split
  · exact splitAtText_ne_nil _ _
  · exact cutAtMost_ne_nil _ _ _

/-- A name that is one part is that part. -/
theorem eq_of_parts {m : Manner} (hmark : m.mark ≠ []) (h : m.parts t = [piece]) :
    t = piece := by
  unfold Manner.parts at h
  split at h
  · rw [splitAtText] at h
    split at h
    · exact (List.cons.inj h).1
    · rename_i parts hcut
      have hshort : parts.2.length < t.length := by
        have hlength := congrArg List.length (cut_eq_some hcut)
        rw [List.length_append, List.length_append] at hlength
        have := List.length_pos_iff.2 hmark
        omega
      rw [dif_pos hshort] at h
      exact absurd (List.cons.inj h).2 (splitAtText_ne_nil _ _)
  · rename_i most _
    cases hn : most - 1 with
    | zero =>
        rw [hn] at h
        exact (List.cons.inj h).1
    | succ n =>
        rw [hn, cutAtMost_succ] at h
        split at h
        · exact absurd (List.cons.inj h).2 (cutAtMost_ne_nil _ _ _)
        · exact (List.cons.inj h).1

theorem mem_of_mem_parts {m : Manner} (h : piece ∈ m.parts t) : ∀ c ∈ piece, c ∈ t := by
  unfold Manner.parts at h
  split at h
  · exact mem_of_mem_splitAtText h
  · exact mem_of_mem_cutAtMost h

end Parts

/-! ## Names of settings -/

section Names

variable {m : Manner} {x : Setting} {part name : Text}

theorem Manner.fold_plain (m : Manner) (h : ∀ c ∈ name, IsPlain c) :
    m.fold name = name := by
  unfold Manner.fold
  split
  · rfl
  · exact lower_plain h

theorem Manner.exists_variableOf (m : Manner) (h : ∀ c ∈ name, IsPlain c) :
    ∃ front, m.variableOf name = front ++ name := by
  unfold Manner.variableOf Manner.fold
  split
  · exact ⟨m.start, rfl⟩
  · exact exists_lower_append h m.start

theorem Setting.isPlain_name (x : Setting) : ∀ c ∈ x.name, IsPlain c := by
  cases x <;> decide

theorem isPlain_of_mem_sections :
    ∀ s ∈ Environment.sections, ∀ field ∈ s.2, ∀ c ∈ field.1, IsPlain c := by decide

/-- No field of a section has a name that ends in that of another. -/
theorem eq_of_suffix : ∀ s ∈ Environment.sections, ∀ field ∈ s.2, ∀ other ∈ s.2,
    field.1 <:+ other.1 → field = other := by decide

theorem Setting.exists_shape (hpart : x.section? = some part) : ∃ shape,
    (part, shape) ∈ Environment.sections ∧ (x.name, x.holdsList) ∈ shape := by
  cases x <;> cases hpart
  iterate 4 exact ⟨(Environment.sections[0]).2, .head _, by decide⟩
  iterate 4 exact ⟨(Environment.sections[1]).2, .tail _ (.head _), by decide⟩
  iterate 2 exact ⟨(Environment.sections[2]).2, .tail _ (.tail _ (.head _)), by decide⟩

theorem holdsList_eq {shape : Environment.SectionShape}
    (hshape : (part, shape) ∈ Environment.sections) (hx : (x.name, x.holdsList) ∈ shape) :
    Environment.holdsList m shape x.name = x.holdsList := by
  have hplain := isPlain_of_mem_sections _ hshape
  have hsame := eq_of_suffix _ hshape
  have hsome : (shape.find? fun field =>
      m.fold field.1 = x.name || m.variableOf field.1 = x.name) =
        some (x.name, x.holdsList) := by
    cases hfound : shape.find? fun field =>
        m.fold field.1 = x.name || m.variableOf field.1 = x.name with
    | none =>
        have := List.find?_eq_none.1 hfound _ hx
        simp [m.fold_plain x.isPlain_name] at this
    | some field =>
        have hmem := List.mem_of_find?_eq_some hfound
        have hends : field.1 <:+ x.name := by
          have hfield := List.find?_some hfound
          rw [m.fold_plain (hplain _ hmem), Bool.or_eq_true, decide_eq_true_eq,
            decide_eq_true_eq] at hfield
          obtain hfield | hfield := hfield
          · exact hfield ▸ List.suffix_refl _
          · obtain ⟨front, hfront⟩ := m.exists_variableOf (hplain _ hmem)
            exact ⟨front, hfront.symm.trans hfield⟩
        rw [hsame _ hmem _ hx hends]
  rw [Environment.holdsList, hsome]

end Names

/-! ## Tables under construction -/

/-- What is found for a setting is what was given, or no check takes it. -/
def Agrees (found given : Option Value) : Prop :=
  found = given ∨ ∃ v, found = some v ∧ v.IsBlunt

theorem isBlunt_table (fields : List (Text × Value)) :
    (Value.table fields).IsBlunt := .inr ⟨_, rfl⟩

namespace Environment

section Construction

variable {m : Manner} {shape : SectionShape} {way : List Text}
  {fields fields' : List (Text × Value)} {t : Text}

/-- A value at the end of its way is set, unless it yields to what is there. -/
theorem setAt_single (yields : Bool) (key : Text) (v : Value)
    (fields : List (Text × Value)) :
    setAt yields [key] v fields =
      match fields.lookup key with
      | none | some (.table []) => Value.setField fields key v
      | some _ => if yields then fields else Value.setField fields key v := rfl

/-- A longer way goes through the table at its front. -/
theorem setAt_way (yields : Bool) (key next : Text) (way : List Text) (v : Value)
    (fields : List (Text × Value)) :
    setAt yields (key :: next :: way) v fields =
      match fields.lookup key with
      | some (.table inner) =>
          Value.setField fields key (.table (setAt yields (next :: way) v inner))
      | some _ => fields
      | none =>
          Value.setField fields key (.table (setAt yields (next :: way) v [])) := rfl

/-- A value is set at the front of its way or not at all. -/
theorem setAt_cons (yields : Bool) (key : Text) (way : List Text) (v : Value)
    (fields : List (Text × Value)) : setAt yields (key :: way) v fields = fields ∨
      ∃ w, setAt yields (key :: way) v fields = Value.setField fields key w := by
  cases way with
  | nil =>
      rw [setAt_single]
      split
      · exact .inr ⟨v, rfl⟩
      · exact .inr ⟨v, rfl⟩
      · split
        · exact .inl rfl
        · exact .inr ⟨v, rfl⟩
  | cons next way =>
      rw [setAt_way]
      split
      · exact .inr ⟨_, rfl⟩
      · exact .inl rfl
      · exact .inr ⟨_, rfl⟩

/-- A value that does not yield is found at the end of its way; one that does may leave
there what was there. -/
theorem lookup_setAt_end (yields : Bool) (name : Text) (v : Value)
    (fields : List (Text × Value)) :
    (setAt yields [name] v fields).lookup name = some v ∨ yields = true ∧
      ∃ u, fields.lookup name = some u ∧
        (setAt yields [name] v fields).lookup name = some u := by
  have hset : (Value.setField fields name v).lookup name = some v := by
    rw [lookup_setField, if_pos rfl]
  rw [setAt_single]
  split
  · exact .inl hset
  · exact .inl hset
  · rename_i u _ hu
    split
    · exact .inr ⟨‹_›, u, hu, hu⟩
    · exact .inl hset

/-- A longer way leaves a table at its front, or a value that is there and is no table. -/
theorem agrees_setAt_way (yields : Bool) (name next : Text) (way : List Text) (v : Value)
    (fields : List (Text × Value)) :
    Agrees ((setAt yields (name :: next :: way) v fields).lookup name)
      (fields.lookup name) := by
  have hset (inner : List (Text × Value)) :
      Agrees ((Value.setField fields name (.table inner)).lookup name)
        (fields.lookup name) :=
    .inr ⟨.table inner, by rw [lookup_setField, if_pos rfl], isBlunt_table inner⟩
  rw [setAt_way]
  split
  · exact hset _
  · exact .inl rfl
  · exact hset _

theorem addVariable_cons {key : Text}
    (h : addVariable? m shape fields (key :: way) t = some fields') :
    ∃ yields v, fields' = setAt yields (key :: way) v fields := by
  cases way with
  | nil =>
      rw [addVariable?] at h
      split at h
      · split at h
        · exact ⟨false, _, (Option.some.inj h).symm⟩
        · exact absurd h nofun
      · exact ⟨_, _, (Option.some.inj h).symm⟩
  | cons next way => exact ⟨_, _, (Option.some.inj h).symm⟩

end Construction

end Environment

namespace Environment

section Variables

variable {m : Manner} {env : Environment} {x : Setting} {part : Text}
  {shape : SectionShape} {fields fields' : List (Text × Value)} {t : Text}

/-- The own variable of a setting turns up its value; the word for nothing may leave what
is there. -/
theorem lookup_addVariable (hlist : holdsList m shape x.name = x.holdsList)
    (h : addVariable? m shape fields [x.name] t = some fields') :
    ∃ v, x.ofVariable? m t = some v ∧ (fields'.lookup x.name = some v ∨
      v = .null ∧ ∃ u, fields.lookup x.name = some u ∧
        fields'.lookup x.name = some u) := by
  rw [addVariable?, hlist] at h
  unfold Setting.ofVariable?
  split at h
  · rename_i hjson
    rw [if_pos hjson]
    split at h
    · rename_i v hv
      rw [← Option.some.inj h, hv]
      refine ⟨v, rfl, ?_⟩
      obtain hset | ⟨hyields, -⟩ := lookup_setAt_end false x.name v fields
      · exact .inl hset
      · exact absurd hyields Bool.false_ne_true
    · exact absurd h nofun
  · rename_i htext
    rw [if_neg htext, ← Option.some.inj h]
    refine ⟨m.valueOf t, rfl, ?_⟩
    obtain hset | ⟨hyields, hsame⟩ :=
      lookup_setAt_end (m.isNothing t) x.name (m.valueOf t) fields
    · exact .inl hset
    · exact .inr ⟨by rw [Manner.valueOf, if_pos hyields], hsame⟩

/-- The value of the variable of a name: the last one that counts of those whose names are
compared as this one. -/
def value? (m : Manner) (env : Environment) (name : Text) : Option Text :=
  lastOf? (m.fold · = name) (env.filter fun v => !(m.skipsEmpty && v.2 = []))

theorem folded_eq (m : Manner) (env : Environment) :
    folded m env = (env.filter fun v => !(m.skipsEmpty && v.2 = [])).foldl
      (fun seen v => assign seen (m.fold v.1) v.2) [] := rfl

theorem lookup_folded (m : Manner) (env : Environment) (name : Text) :
    (folded m env).lookup name = value? m env name := by
  rw [folded_eq, lookup_foldl_assign, List.lookup_nil, Option.or_none]
  rfl

theorem nodup_folded (m : Manner) (env : Environment) :
    ((folded m env).map (·.1)).Nodup := by
  rw [folded_eq]
  exact nodup_foldl_assign m.fold _ List.nodup_nil

theorem notCapital_of_mem_folded (hcase : m.exactCase = false) {v : Text × Text}
    (hv : v ∈ folded m env) : ∀ c ∈ v.1, ¬ IsCapital c := by
  rw [folded_eq] at hv
  obtain hv | ⟨w, -, rfl⟩ := mem_foldl_assign hv
  · exact absurd hv List.not_mem_nil
  · rw [Manner.fold, if_neg (Bool.not_eq_true _ ▸ hcase)]
    exact forall_mem_lower w.1

/-- What its own variable gives for a setting of a section. A setting has such a variable
if there is a mark and its name is one part. -/
def ownValue? (m : Manner) (env : Environment) (part : Text) (x : Setting) :
    Option Value :=
  if m.mark ≠ [] ∧ m.parts x.name = [x.name] then
    (value? m env (m.variableOf part ++ m.mark ++ x.name)).bind (x.ofVariable? m)
  else none

/-- What the variables below a section have built, as far as one of its settings is
concerned. -/
structure Builds (m : Manner) (x : Setting) (given : Option Value)
    (fields : List (Text × Value)) :
    Prop where
  nodup : (fields.map (·.1)).Nodup
  lowered : m.exactCase = false → ∀ f ∈ fields, ∀ c ∈ f.1, ¬ IsCapital c
  value : fields.lookup x.name = none ∨ Agrees (fields.lookup x.name) given

theorem Builds.nil (m : Manner) (x : Setting) (given : Option Value) :
    Builds m x given [] :=
  ⟨List.nodup_nil, fun _ => List.forall_mem_nil _, .inl rfl⟩

/-- Each variable below a section keeps to it. -/
theorem Builds.step (hmark : m.mark ≠ []) (hlist : holdsList m shape x.name = x.holdsList)
    {r : Text} (hv : (m.variableOf part ++ m.mark ++ r, t) ∈ folded m env)
    (hf : Builds m x (ownValue? m env part x) fields)
    (h : addVariable? m shape fields (m.parts r) t = some fields') :
    Builds m x (ownValue? m env part x) fields' := by
  cases hparts : m.parts r with
  | nil => exact absurd hparts (parts_ne_nil m r)
  | cons key way =>
      have hkey : m.exactCase = false → ∀ c ∈ key, ¬ IsCapital c := fun hcase c hc =>
        notCapital_of_mem_folded hcase hv c (List.mem_append_right _
          (mem_of_mem_parts (hparts ▸ List.mem_cons_self) c hc))
      rw [hparts] at h
      obtain ⟨yields, w, hset⟩ := addVariable_cons h
      have hcases := setAt_cons yields key way w fields
      rw [← hset] at hcases
      refine ⟨?_, fun hcase => ?_, ?_⟩
      · obtain hsame | ⟨u, hu⟩ := hcases
        · exact hsame ▸ hf.nodup
        · exact hu ▸ nodup_assign hf.nodup key u
      · obtain hsame | ⟨u, hu⟩ := hcases
        · exact hsame ▸ hf.lowered hcase
        · rw [hu]
          intro f hmem
          obtain hmem | rfl := mem_assign hmem
          · exact hf.lowered hcase f hmem
          · exact hkey hcase
      · by_cases hname : key = x.name
        · subst hname
          cases way with
          | nil =>
              -- The name behind the mark is that of the setting, and so it is its own
              -- variable.
              have hr := eq_of_parts hmark hparts
              have hown : ownValue? m env part x = x.ofVariable? m t := by
                rw [ownValue?, if_pos ⟨hmark, hr ▸ hparts⟩, ← lookup_folded,
                  lookup_of_mem (nodup_folded m env) (hr ▸ hv), Option.bind_some]
              obtain ⟨v, hv, hfound | ⟨-, u, hbefore, hfound⟩⟩ :=
                lookup_addVariable hlist h
              · exact .inr (.inl (by rw [hfound, hown, hv]))
              · exact hfound ▸ hbefore ▸ hf.value
          | cons next way =>
              obtain hsame | hblunt := agrees_setAt_way yields x.name next way w fields
              · exact hset ▸ hsame ▸ hf.value
              · exact .inr (.inr (hset ▸ hblunt))
        · obtain hsame | ⟨u, hu⟩ := hcases
          · exact hsame ▸ hf.value
          · rw [hu, lookup_setField, if_neg (Ne.symm hname)]
            exact hf.value

theorem isSome_addVariable {r name : Text} (hsome : (fields.lookup name).isSome = true)
    (h : addVariable? m shape fields (m.parts r) t = some fields') :
    (fields'.lookup name).isSome = true := by
  cases hparts : m.parts r with
  | nil => exact absurd hparts (parts_ne_nil m r)
  | cons key way =>
      rw [hparts] at h
      obtain ⟨yields, w, hset⟩ := addVariable_cons h
      rw [hset]
      obtain hsame | ⟨u, hu⟩ := setAt_cons yields key way w fields
      · rw [hsame]
        exact hsome
      · rw [hu, lookup_setField]
        split
        · rfl
        · exact hsome

section Fields

variable (hlist : holdsList m shape x.name = x.holdsList)
  (h : fieldsOf? m (folded m env) part shape = some fields)
include hlist h

/-- What the variables below a section build, each of them keeps to. -/
theorem builds_of_fieldsOf : Builds m x (ownValue? m env part x) fields := by
  unfold fieldsOf? at h
  by_cases hmark : m.mark = []
  · rw [if_pos hmark] at h
    exact Option.some.inj h ▸ .nil m x _
  · rw [if_neg hmark] at h
    refine of_foldlM (fun s v s' hv hs hstep => ?_) (.nil m x _) h
    split at hstep
    · rename_i hstart
      obtain ⟨r, hr⟩ := startsWith_iff.1 hstart
      rw [← hr, List.drop_left] at hstep
      exact Builds.step hmark hlist (t := v.2) (r := r) (hr ▸ hv) hs hstep
    · exact Option.some.inj hstep ▸ hs

/-- The own variable of a setting leaves something. -/
theorem isSome_of_ownVariable (hmark : m.mark ≠ []) (hparts : m.parts x.name = [x.name])
    (hvalue : value? m env (m.variableOf part ++ m.mark ++ x.name) = some t) :
    (fields.lookup x.name).isSome = true := by
  rw [← lookup_folded] at hvalue
  obtain ⟨front, rear, hfolded, -⟩ := List.lookup_eq_some_iff.1 hvalue
  have hmem : (m.variableOf part ++ m.mark ++ x.name, t) ∈ folded m env :=
    hfolded ▸ List.mem_append_right front List.mem_cons_self
  unfold fieldsOf? at h
  rw [if_neg hmark] at h
  refine of_mem_foldlM (P := fun s => (s.lookup x.name).isSome = true) hmem
    (fun s s' hstep => ?_) (fun s v s' hs hstep => ?_) h
  · rw [if_pos (startsWith_iff.2 ⟨x.name, rfl⟩), List.drop_left, hparts] at hstep
    obtain ⟨v, -, hfound | ⟨-, u, -, hfound⟩⟩ := lookup_addVariable hlist hstep
    · exact hfound ▸ rfl
    · exact hfound ▸ rfl
  · split at hstep
    · exact isSome_addVariable hs hstep
    · exact Option.some.inj hstep ▸ hs

/-- The variables below a section turn up for a setting the value of its own variable, or
what no check takes. -/
theorem builds_fieldsOf : Builds m x (ownValue? m env part x) fields ∧
    Agrees (fields.lookup x.name) (ownValue? m env part x) := by
  have hbuilds := builds_of_fieldsOf hlist h
  refine ⟨hbuilds, ?_⟩
  obtain hnone | hagrees := hbuilds.value
  · rw [hnone]
    refine .inl (Eq.symm ?_)
    rw [ownValue?]
    split
    · rename_i hown
      cases hvalue : value? m env (m.variableOf part ++ m.mark ++ x.name) with
      | none => rfl
      | some t =>
          have hsome := isSome_of_ownVariable hlist h hown.1 hown.2 hvalue
          rw [hnone] at hsome
          exact absurd hsome Bool.false_ne_true
    · rfl
  · exact hagrees

end Fields

end Variables

/-! ## Tables on top of tables -/

section Merged

variable {p : Text → Bool} {name : Text} {upper : List (Text × Value)}

/-- A value on top of what is there. -/
def laidOn (v : Value) (below : Option Value) : Value :=
  match below with
  | some below => merge v below
  | none => v

theorem mergeFields_cons (key : Text) (v : Value) (upper below : List (Text × Value)) :
    mergeFields ((key, v) :: upper) below =
      mergeFields upper (assign below key (laidOn v (below.lookup key))) := by
  rw [mergeFields]
  rfl

/-- The upper value counts, unless two tables are joined. -/
theorem laidOn_eq (v : Value) (below : Option Value) :
    (laidOn v below = v ∧ ∀ T B, v = .table T → below ≠ some (.table B)) ∨
      ∃ T B, v = .table T ∧ below = some (.table B) ∧ laidOn v below =
        .table (mergeFields T B) := by
  cases below with
  | none => exact .inl ⟨rfl, fun _ _ _ => nofun⟩
  | some below =>
      cases v <;> cases below
      case table.table upper below =>
        exact .inr ⟨upper, below, rfl, rfl, by rw [laidOn, merge]⟩
      all_goals
        refine .inl ⟨?_, by simp⟩
        rw [laidOn, merge]
        intros
        contradiction

theorem laidOn_cases (v : Value) (below : Option Value) :
    laidOn v below = v ∨ v.IsBlunt ∧ (laidOn v below).IsBlunt := by
  obtain ⟨hsame, -⟩ | ⟨T, B, rfl, -, hjoined⟩ := laidOn_eq v below
  · exact .inl hsame
  · exact .inr ⟨isBlunt_table T, hjoined ▸ isBlunt_table _⟩

theorem lookup_mergeFields (hkeys : (upper.map (·.1)).Nodup) (below : List (Text × Value))
    (name : Text) : (mergeFields upper below).lookup name =
      match upper.lookup name with
      | some v => some (laidOn v (below.lookup name))
      | none => below.lookup name := by
  induction upper generalizing below with
  | nil => rw [mergeFields]; rfl
  | cons f upper ih =>
      obtain ⟨key, v⟩ := f
      rw [List.map_cons, List.nodup_cons] at hkeys
      rw [mergeFields_cons, ih hkeys.2, lookup_assign, lookup_cons_ite]
      by_cases hkey : name = key
      · subst hkey
        rw [if_pos rfl, if_pos rfl, lookup_eq_none hkeys.1]
      · rw [if_neg hkey, if_neg hkey]

theorem lastOf?_mergeFields (hkeys : (upper.map (·.1)).Nodup) (hname : p name = true)
    (hone : ∀ f ∈ upper, p f.1 = true → f.1 = name) (below : List (Text × Value)) :
    lastOf? p (mergeFields upper below) =
      match upper.lookup name with
      | some v => lastOf? p (assign below name (laidOn v (below.lookup name)))
      | none => lastOf? p below := by
  induction upper generalizing below with
  | nil => rw [mergeFields]; rfl
  | cons f upper ih =>
      obtain ⟨key, v⟩ := f
      obtain ⟨hkey, hone⟩ := List.forall_mem_cons.1 hone
      rw [List.map_cons, List.nodup_cons] at hkeys
      rw [mergeFields_cons, ih hkeys.2 hone, lookup_cons_ite, lookup_assign]
      by_cases hsame : name = key
      · subst hsame
        rw [if_pos rfl, lookup_eq_none hkeys.1, if_pos rfl]
      · have hother : p key = false := Bool.eq_false_iff.2 fun h => hsame (hkey h).symm
        rw [if_neg hsame, if_neg hsame]
        cases upper.lookup name with
        | some w => exact lastOf?_assign_assign hother hname below _ _
        | none => exact lastOf?_assign_of_neg hother below _

end Merged

/-! ## Sections -/

section Sections

variable {m : Manner} {env : Environment} {x : Setting} {part name t : Text}
  {shape : SectionShape} {fields below : List (Text × Value)} {found : Option Value}

/-- What an object gives for a name. The name is written in any case if that does not
matter, and then the last of its spellings counts. -/
def spelled? (m : Manner) (fields : List (Text × Value)) (name : Text) : Option Value :=
  if m.exactCase then fields.lookup name else lastOf? (lower · = name) fields

/-- The name of a setting that the key of an object stands for, or the key itself. -/
def nameFor (shape : SectionShape) (key : Text) : Text :=
  match shape.find? fun field => field.1 = lower key with
  | some field => field.1
  | none => key

theorem nameFor_eq_iff (hx : (name, list) ∈ shape) (hplain : ∀ c ∈ name, IsPlain c)
    (key : Text) : nameFor shape key = name ↔ lower key = name := by
  unfold nameFor
  cases hfound : shape.find? fun field => field.1 = lower key with
  | some field =>
      have hfield := List.find?_some hfound
      rw [decide_eq_true_eq] at hfield
      dsimp only
      rw [hfield]
  | none =>
      have hnone := List.find?_eq_none.1 hfound _ hx
      refine iff_of_false (fun h => ?_) fun h => hnone (decide_eq_true h.symm)
      dsimp only at h
      exact hnone (decide_eq_true (h ▸ (lower_plain hplain).symm))

theorem lookup_namedFields (hx : (x.name, x.holdsList) ∈ shape)
    (fields : List (Text × Value)) :
    (namedFields m shape fields).lookup x.name = spelled? m fields x.name := by
  have hnamed : namedFields m shape fields =
      if m.exactCase then fields
      else fields.foldl (fun seen f => assign seen (nameFor shape f.1) f.2) [] := rfl
  rw [hnamed, spelled?]
  split
  · rfl
  · rw [lookup_foldl_assign, List.lookup_nil, Option.or_none]
    congr 1
    funext key
    exact decide_eq_decide.2 (nameFor_eq_iff hx x.isPlain_name key)

/-- What its own variable gives, set in the object of a section. -/
def withOwn (own : Option Value) (name : Text) (object : List (Text × Value)) :
    List (Text × Value) :=
  match own with
  | some v => Value.setField object name v
  | none => object

/-- What an environment gives for a setting: what its own variable gives, or the object
that the variable of its section writes with that set in it. -/
def given? (m : Manner) (env : Environment) (x : Setting) : Option Value :=
  match x.section? with
  | none => (value? m env (m.variableOf x.name)).map m.valueOf
  | some part =>
    match value? m env (m.variableOf part) with
    | none => ownValue? m env part x
    | some t =>
      if m.isNothing t then none
      else
        match Json.read t with
        | .ok (.table object) =>
          spelled? m (withOwn (ownValue? m env part x) x.name object) x.name
        | _ => none

theorem spelled?_of_builds (h : Builds m x found fields) :
    spelled? m fields x.name = fields.lookup x.name := by
  unfold spelled?
  split
  · rfl
  · rename_i hcase
    refine lastOf?_eq_lookup h.nodup (decide_eq_true (lower_plain x.isPlain_name))
      fun f hf hlower => ?_
    exact eq_of_lower_eq (h.lowered (Bool.eq_false_iff.2 hcase) f hf) x.isPlain_name
      (of_decide_eq_true hlower)

theorem spelled?_assign_cases (m : Manner) (x : Setting) (object : List (Text × Value)) :
    (∀ v, spelled? m (Value.setField object x.name v) x.name = some v) ∨
      ∀ v, spelled? m (Value.setField object x.name v) x.name =
        spelled? m object x.name := by
  unfold spelled?
  split
  · exact .inl fun v => by rw [lookup_setField, if_pos rfl]
  · exact lastOf?_assign_cases (decide_eq_true (lower_plain x.isPlain_name)) object

theorem spelled?_mergeFields (h : Builds m x found fields)
    (object : List (Text × Value)) :
    spelled? m (mergeFields fields object) x.name =
      match fields.lookup x.name with
      | some v =>
          spelled? m (Value.setField object x.name (laidOn v (object.lookup x.name)))
            x.name
      | none => spelled? m object x.name := by
  unfold spelled?
  split
  · rw [lookup_mergeFields h.nodup]
    cases fields.lookup x.name with
    | some v =>
        dsimp only
        rw [lookup_setField, if_pos rfl]
    | none => rfl
  · rename_i hcase
    refine lastOf?_mergeFields h.nodup (decide_eq_true (lower_plain x.isPlain_name))
      (fun f hf hlower => ?_) object
    exact eq_of_lower_eq (h.lowered (Bool.eq_false_iff.2 hcase) f hf) x.isPlain_name
      (of_decide_eq_true hlower)

/-- What the variables below a section have built on top of an object: for a setting of
the section, the object with its own variable set in it. -/
theorem agrees_spelled (hbuilds : Builds m x found fields)
    (hagrees : Agrees (fields.lookup x.name) found) (object : List (Text × Value)) :
    Agrees (spelled? m (mergeFields fields object) x.name)
      (spelled? m (withOwn found x.name object) x.name) := by
  rw [spelled?_mergeFields hbuilds]
  cases hfields : fields.lookup x.name with
  | none =>
      rw [hfields] at hagrees
      obtain rfl | ⟨v, hv, -⟩ := hagrees
      · exact .inl rfl
      · exact absurd hv nofun
  | some v =>
      rw [hfields] at hagrees
      obtain hlast | hbefore := spelled?_assign_cases m x object
      · dsimp only
        rw [hlast]
        obtain hover | ⟨-, hblunt⟩ := laidOn_cases v (object.lookup x.name)
        · rw [hover]
          obtain rfl | hblunt := hagrees
          · exact .inl (hlast v).symm
          · exact .inr hblunt
        · exact .inr ⟨_, rfl, hblunt⟩
      · -- A later spelling counts, whatever is set.
        refine .inl ((hbefore _).trans ?_)
        cases found with
        | none => rfl
        | some w => exact (hbefore w).symm

section Given

variable (hshape : (part, shape) ∈ sections) (hx : (x.name, x.holdsList) ∈ shape)
  (hpart : x.section? = some part) (h : section? m (folded m env) part shape = .ok found)
include hshape hx hpart h

/-- A section that no variable writes is what the variables below it have built. -/
theorem agrees_unwritten (hvalue : value? m env (m.variableOf part) = none) :
    Agrees (found.bind (·.get? x.name)) (given? m env x) := by
  have hgiven : given? m env x = ownValue? m env part x := by
    simp only [given?, hpart, hvalue]
  rw [hgiven]
  unfold section? at h
  rw [lookup_folded, hvalue] at h
  dsimp only at h
  cases hfields : fieldsOf? m (folded m env) part shape with
  | none =>
      rw [hfields] at h
      exact absurd h nofun
  | some fields =>
      obtain ⟨hbuilds, hagrees⟩ := builds_fieldsOf (holdsList_eq hshape hx) hfields
      rw [hfields] at h
      cases fields with
      | nil =>
          rw [← Except.ok.inj h]
          exact hagrees
      | cons f fields =>
          rw [← Except.ok.inj h]
          change Agrees ((namedFields m shape (f :: fields)).lookup x.name) _
          rwa [lookup_namedFields hx, spelled?_of_builds hbuilds]

/-- On a section that a variable writes comes what the variables below it have built; if
no object is written, it has no settings. -/
theorem agrees_written (hvalue : value? m env (m.variableOf part) = some t) :
    Agrees (found.bind (·.get? x.name)) (given? m env x) := by
  unfold section? at h
  rw [lookup_folded, hvalue] at h
  rw [given?, hpart]
  dsimp only at h ⊢
  rw [hvalue]
  dsimp only
  by_cases hnothing : m.isNothing t = true
  · rw [if_pos hnothing] at h ⊢
    rw [← Except.ok.inj h]
    exact .inl rfl
  · rw [if_neg hnothing] at h ⊢
    cases hjson : Json.read t with
    | error e =>
        rw [hjson] at h
        exact absurd h nofun
    | ok v =>
        rw [hjson] at h
        cases v with
        | table object =>
            dsimp only at h ⊢
            cases hfields : fieldsOf? m (folded m env) part shape with
            | none =>
                rw [hfields] at h
                exact absurd h nofun
            | some fields =>
                obtain ⟨hbuilds, hagrees⟩ :=
                  builds_fieldsOf (holdsList_eq hshape hx) hfields
                rw [hfields] at h
                rw [← Except.ok.inj h]
                change Agrees
                  ((namedFields m shape (mergeFields fields object)).lookup x.name) _
                rw [lookup_namedFields hx]
                exact agrees_spelled hbuilds hagrees object
        | _ =>
            rw [← Except.ok.inj h]
            exact .inl rfl

theorem agrees_section : Agrees (found.bind (·.get? x.name)) (given? m env x) := by
  cases hvalue : value? m env (m.variableOf part) with
  | none => exact agrees_unwritten hshape hx hpart h hvalue
  | some t => exact agrees_written hshape hx hpart h hvalue

end Given

/-- Fields with what the variables say about one section. -/
def addSection (m : Manner) (env : Environment) (fields : List (Text × Value))
    (s : Text × SectionShape) : Except Text (List (Text × Value)) :=
  match section? m env s.1 s.2 with
  | .ok (some v) => .ok (fields ++ [(s.1, v)])
  | .ok none => .ok fields
  | .error () => .error s.1

/-- The field of the version, if there is a variable for it. -/
def versionField (m : Manner) (env : Environment) : List (Text × Value) :=
  match env.lookup (m.variableOf "version".toList) with
  | some t => [("version".toList, m.valueOf t)]
  | none => []

theorem settings_eq (m : Manner) (env : Environment) : settings m env =
    sections.foldlM (addSection m (folded m env)) (versionField m (folded m env)) := rfl

theorem lookup_versionField (m : Manner) (env : Environment) (name : Text) :
    (versionField m (folded m env)).lookup name = if name = "version".toList then
      (value? m env (m.variableOf "version".toList)).map m.valueOf else none := by
  rw [versionField, lookup_folded]
  cases value? m env (m.variableOf "version".toList) with
  | none => exact (ite_self none).symm
  | some t => exact lookup_cons_ite _ _ _

/-- The sections that are added one after another are found under their names, and nothing
else changes. -/
theorem lookup_of_addSection {parts : List (Text × SectionShape)}
    {start : List (Text × Value)} (hparts : (parts.map (·.1)).Nodup)
    (hnew : ∀ s ∈ parts, start.lookup s.1 = none)
    (h : parts.foldlM (addSection m env) start = .ok below) :
    (∀ name, name ∉ parts.map (·.1) → below.lookup name = start.lookup name) ∧
      ∀ s ∈ parts, section? m env s.1 s.2 = .ok (below.lookup s.1) := by
  induction parts generalizing start with
  | nil => exact ⟨fun _ _ => Except.ok.inj h ▸ rfl, List.forall_mem_nil _⟩
  | cons s parts ih =>
      rw [List.map_cons, List.nodup_cons] at hparts
      obtain ⟨hs, hnew⟩ := List.forall_mem_cons.1 hnew
      rw [List.foldlM_cons] at h
      obtain ⟨next, hnext, h⟩ := ok_of_bind_eq_ok h
      have hstep : section? m env s.1 s.2 = .ok (next.lookup s.1) ∧
          ∀ name, name ≠ s.1 → next.lookup name = start.lookup name := by
        unfold addSection at hnext
        split at hnext
        · rename_i v hsection
          rw [← Except.ok.inj hnext, hsection]
          refine ⟨?_, fun name hname => ?_⟩
          · rw [lookup_append_single, hs, if_pos rfl, Option.none_or]
          · rw [lookup_append_single, if_neg hname, Option.or_none]
        · rename_i hsection
          rw [← Except.ok.inj hnext, hsection, hs]
          exact ⟨rfl, fun _ _ => rfl⟩
        · exact absurd hnext nofun
      have hne : ∀ other ∈ parts, other.1 ≠ s.1 := fun other hmem he =>
        hparts.1 (he ▸ List.mem_map_of_mem hmem)
      obtain ⟨hothers, hrest⟩ := ih hparts.2
        (fun other hmem => (hstep.2 _ (hne other hmem)).trans (hnew other hmem)) h
      refine ⟨fun name hname => ?_, List.forall_mem_cons.2 ⟨?_, hrest⟩⟩
      · rw [List.map_cons, List.mem_cons, not_or] at hname
        rw [hothers name hname.2, hstep.2 name hname.1]
      · rw [hothers s.1 hparts.1]
        exact hstep.1

/-- What the environment says about a setting is what it gives for it, or what no check
takes. -/
theorem agrees_settings (h : settings m env = .ok below) (x : Setting) :
    Agrees (x.valueIn below) (given? m env x) := by
  have hparts : (sections.map (·.1)).Nodup := by decide
  have hversion : "version".toList ∉ sections.map (·.1) := by decide
  have hnew : ∀ s ∈ sections, (versionField m (folded m env)).lookup s.1 = none := by
    intro s hs
    have hne : s.1 ≠ "version".toList := fun he => hversion (he ▸ List.mem_map_of_mem hs)
    rw [lookup_versionField, if_neg hne]
  rw [settings_eq] at h
  obtain ⟨hothers, hsections⟩ := lookup_of_addSection hparts hnew h
  cases hpart : x.section? with
  | none =>
      have hx : x = .version := by cases x <;> first | rfl | exact absurd hpart nofun
      subst hx
      exact
        .inl
          ((hothers _ hversion).trans ((lookup_versionField m env _).trans (if_pos rfl)))
  | some part =>
      obtain ⟨shape, hshape, hx⟩ := x.exists_shape hpart
      have hagrees := agrees_section hshape hx hpart (hsections _ hshape)
      rwa [Setting.valueIn, hpart]

/-- In the usual manner a setting has one variable, which names its section and itself in
any case of letters, unless its section has a variable that gives all of it. -/
theorem given?_usual (hpart : x.section? = some part)
    (hnone : value? {} env ("depscope_".toList ++ part) = none) :
    given? {} env x =
      (value? {} env ("depscope_".toList ++ part ++ "__".toList ++ x.name)).bind
        (x.ofVariable? {}) := by
  have hvariable : Manner.variableOf {} part = "depscope_".toList ++ part := by
    cases x <;> cases hpart <;> decide
  have hparts : Manner.parts {} x.name = [x.name] := by cases x <;> decide +kernel
  rw [given?, hpart]
  dsimp only
  rw [hvariable, hnone, ownValue?, if_pos ⟨by decide, hparts⟩, hvariable]

end Sections

end Environment

end ImpactGraph
