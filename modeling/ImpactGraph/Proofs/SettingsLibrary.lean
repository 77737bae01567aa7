import Mathlib.Data.List.Find
import ImpactGraph.Proofs.EnvironmentSettings
import ImpactGraph.Settings.StandIn

/-!
# What the documentation of the library says

The library that makes settings is not part of the project. What is relied on of it stands
here, one field for each rule of its documentation: which arguments are its own, that
settings given as arguments are laid over those of the environment table by table, that
each setting is made of its own value or has its default, and which variable a setting
has. From the rules follows what becomes of one setting when two layers of data are joined
(`settle_of_mergeFields`): no section of the upper layer hides the settings it does not
name, since tables are joined, and a setting that is a table in either layer is no
setting.

The library that the program runs with keeps the rules (`documented_standIn`).
-/

namespace ImpactGraph

open Text

/-! ## Variables by name -/

namespace Environment

/-- The values of the variables of a name, which is written in any case of letters. -/
def valuesOf (env : Environment) (name : Text) : List Text :=
  (env.filter (lower ·.1 = name)).map (·.2)

/-- A setting has one variable of its own at most, and its section has none for all of
it. -/
structure GivesSingly (env : Environment) (x : Setting) : Prop where
  single : (env.valuesOf x.variableName).length ≤ 1
  apart : ∀ part ∈ x.section?, env.valuesOf ("depscope_".toList ++ part) = []

end Environment

namespace Settings

/-- A name is written in no other case of letters. -/
def IsExact (given : List (Text × Value)) (name : Text) : Prop :=
  ∀ f ∈ given, lower f.1 = name → f.1 = name

instance (given : List (Text × Value)) (name : Text) : Decidable (IsExact given name) :=
  inferInstanceAs (Decidable (∀ f ∈ given, _))

namespace Library

/-- A setting as the library makes it of a value, or its default when there is none. -/
def settle (lib : Library) (x : Setting) : Option Value → Option x.Kind
  | some v => lib.parse x v
  | none => some (x.get {})

/-- What the documentation says about a library. -/
structure Documented (lib : Library) : Prop where
  /-- The names of the constructor's own parameters start with a low line. -/
  parameter : ∀ key, lib.isParameter key = true → key.head? = some '_'
  /-- Without such arguments, what the arguments say about the settings is laid over what
  the variables say, table by table, and the whole is validated; nothing else is looked
  at. -/
  layers : ∀ w env given, (∀ f ∈ given, lib.isParameter f.1 = false) →
    lib.construct w env given = do
      let below ← lib.ofEnvironment env
      lib.validate (Environment.mergeFields (lib.arguments given) below)
  /-- Arguments say one thing about each setting and each section. -/
  arguments_nodup : ∀ given, ((lib.arguments given).map (·.1)).Nodup
  /-- What they say is the value of one of them. -/
  arguments_mem : ∀ given, ∀ said ∈ lib.arguments given, ∃ f ∈ given, f.2 = said.2
  /-- An argument of the name of a setting or of a section says what is said about it. -/
  arguments_lookup : ∀ given, ∀ name ∈ names, IsExact given name →
    (lib.arguments given).lookup name = given.lookup name
  /-- A setting is made of its own value, or has its default. -/
  validate_setting : ∀ data s, lib.validate data = .ok s →
    ∀ x, lib.settle x (x.valueIn data) = some (x.get s)
  /-- A section is made of a table. -/
  validate_section : ∀ data s, lib.validate data = .ok s → ∀ (x : Setting) part v,
    x.section? = some part → data.lookup part = some v → ∃ inner, v = .table inner
  /-- No setting is made of null or of a table. -/
  parse_blunt : ∀ x v, v.IsBlunt → lib.parse x v = none
  /-- A setting that is given by one variable has the value that its text stands for, or
  one that no setting is made of. -/
  ofEnvironment_single : ∀ env below, lib.ofEnvironment env = .ok below →
    ∀ x, env.GivesSingly x →
    Agrees (x.valueIn below) ((env.valuesOf x.variableName).head?.bind (lib.decode x))

namespace Documented

variable {lib : Library} {upper below : List (Text × Value)} {name : Text} {x : Setting}
  {s : Settings}

theorem not_isBlunt (hlib : lib.Documented) {v : Value} {a : x.Kind}
    (h : lib.parse x v = some a) :
    ¬ v.IsBlunt := fun hblunt => absurd ((hlib.parse_blunt x v hblunt).symm.trans h) nofun

theorem settle_of_lookup (hlib : lib.Documented)
    (hkeys : (upper.map (·.1)).Nodup) {a : x.Kind}
    (h : lib.settle x ((Environment.mergeFields upper below).lookup name) = some a) :
    lib.settle x ((upper.lookup name).or (below.lookup name)) = some a := by
  rw [Environment.lookup_mergeFields hkeys] at h
  cases hupper : upper.lookup name with
  | none =>
      rw [hupper] at h
      exact h
  | some v =>
      rw [hupper] at h
      obtain hover | ⟨-, hblunt⟩ := Environment.laidOn_cases v (below.lookup name)
      · exact hover ▸ h
      · exact absurd hblunt (hlib.not_isBlunt h)

/-- In joined tables every setting has its own value of the upper one, else of the lower
one. -/
theorem settle_of_mergeFields (hlib : lib.Documented) (hkeys : (upper.map (·.1)).Nodup)
    (htables : ∀ part inner, x.section? = some part →
      upper.lookup part = some (.table inner) → (inner.map (·.1)).Nodup)
    (h : lib.validate (Environment.mergeFields upper below) = .ok s) :
    lib.settle x ((x.valueIn upper).or (x.valueIn below)) = some (x.get s) := by
  have hvalue := hlib.validate_setting _ s h x
  unfold Setting.valueIn at hvalue ⊢
  cases hpart : x.section? with
  | none =>
      rw [hpart] at hvalue
      exact hlib.settle_of_lookup hkeys hvalue
  | some part =>
      have htable := fun v => hlib.validate_section _ s h x part v hpart
      rw [hpart] at hvalue
      dsimp only at hvalue ⊢
      rw [Environment.lookup_mergeFields hkeys] at hvalue htable
      cases hupper : upper.lookup part with
      | none =>
          rw [hupper] at hvalue
          exact hvalue
      | some u =>
          rw [hupper] at hvalue htable
          obtain ⟨joined, hjoined⟩ := htable _ rfl
          dsimp only at hvalue
          obtain ⟨hsame, hnot⟩ | ⟨T, B, rfl, hbelow, hover⟩ :=
            Environment.laidOn_eq u (below.lookup part)
          · -- A table on top of no table counts alone.
            have hu : u = .table joined := hsame.symm.trans hjoined
            have hnone : (below.lookup part).bind (·.get? x.name) = none := by
              cases hbelow : below.lookup part with
              | none => rfl
              | some b =>
                  cases b with
                  | table B => exact absurd hbelow (hnot joined B hu)
                  | _ => rfl
            rw [hnone, Option.or_none]
            rwa [hsame] at hvalue
          · rw [hover] at hvalue
            rw [hbelow]
            exact hlib.settle_of_lookup (htables part T hpart hupper) hvalue

/-- What of the environment agrees with what it gives settles a setting as that does. -/
theorem settle_of_agrees (hlib : lib.Documented) {a : x.Kind}
    {first found given : Option Value} (hagrees : Agrees found given)
    (h : lib.settle x (first.or found) = some a) :
    lib.settle x (first.or given) = some a := by
  cases first with
  | some v => exact h
  | none =>
      obtain rfl | ⟨v, rfl, hblunt⟩ := hagrees
      · exact h
      · exact absurd hblunt (hlib.not_isBlunt h)

end Documented

end Library

/-! ## The library that the program runs with -/

section StandIn

variable {fields given : List (Text × Value)} {name : Text} {env : Environment}

theorem keys_named (given : List (Text × Value)) (names : List Text) :
    ((names.filterMap fun name => (given.find? (lower ·.1 = name)).map fun field =>
      (name, field.2)).map (·.1)).Sublist names := by
  induction names with
  | nil => exact .slnil
  | cons name names ih =>
      rw [List.filterMap_cons]
      split
      · exact ih.cons name
      · rename_i f hf
        obtain ⟨field, -, rfl⟩ := Option.map_eq_some_iff.1 hf
        exact ih.cons_cons name

theorem nodup_names : names.Nodup := by decide

theorem nodup_named (given : List (Text × Value)) : ((named given).map (·.1)).Nodup :=
  (keys_named given names).nodup nodup_names

theorem lower_of_mem_names : ∀ name ∈ names, lower name = name := by decide

theorem find?_of_isExact (hname : name ∈ names) (h : IsExact given name) :
    given.find? (lower ·.1 = name) = given.find? (·.1 = name) :=
  List.find?_congr fun f hf => decide_eq_decide.2
    ⟨h f hf, fun heq => heq ▸ lower_of_mem_names name hname⟩

theorem lookup_eq_find? (fields : List (Text × Value)) (name : Text) :
    fields.lookup name = (fields.find? (·.1 = name)).map (·.2) := by
  induction fields with
  | nil => rfl
  | cons f fields ih =>
      rw [lookup_cons_ite, List.find?_cons]
      by_cases h : f.1 = name
      · simp [h]
      · simp [h, ih, Ne.symm h]

theorem mem_of_mem_named {said : Text × Value} (h : said ∈ named given) :
    ∃ f ∈ given, f.2 = said.2 := by
  obtain ⟨name, -, hname⟩ := List.mem_filterMap.1 h
  obtain ⟨f, hf, rfl⟩ := Option.map_eq_some_iff.1 hname
  exact ⟨f, List.mem_of_find?_eq_some hf, rfl⟩

theorem lookup_named (hname : name ∈ names) (h : IsExact given name) :
    (named given).lookup name = given.lookup name := by
  rw [lookup_eq_find? given, ← find?_of_isExact hname h]
  cases hfield : given.find? (lower ·.1 = name) with
  | none =>
      refine lookup_eq_none fun hmem => ?_
      obtain ⟨f, hf, rfl⟩ := List.mem_map.1 hmem
      obtain ⟨other, -, hother⟩ := List.mem_filterMap.1 hf
      obtain ⟨field, hfound, rfl⟩ := Option.map_eq_some_iff.1 hother
      exact absurd (hfound.symm.trans hfield) nofun
  | some field =>
      refine lookup_of_mem (nodup_named given) (List.mem_filterMap.2 ⟨name, hname, ?_⟩)
      rw [hfield]
      rfl

/-- Without keys that start with a low line the variables are read in the usual manner. -/
theorem ofFields_usual (h : ∀ f ∈ given, f.1.head? ≠ some '_') :
    Manner.ofFields given = {} := by
  have hnone (name : Text) (hname : name.head? = some '_') : given.lookup name = none :=
    lookup_eq_none fun hmem => by
      obtain ⟨f, hf, rfl⟩ := List.mem_map.1 hmem
      exact h f hf hname
  unfold Manner.ofFields
  dsimp only
  rw [hnone "_env_prefix".toList rfl, hnone "_env_nested_delimiter".toList rfl,
    hnone "_env_nested_max_split".toList rfl, hnone "_case_sensitive".toList rfl,
    hnone "_env_ignore_empty".toList rfl, hnone "_env_parse_none_str".toList rfl]
  rfl

theorem value?_usual (env : Environment) (name : Text) :
    Environment.value? {} env name = (env.valuesOf name).getLast? := by
  have hall : (env.filter fun v => !(false && v.2 = [])) = env :=
    List.filter_eq_self.2 fun _ _ => rfl
  rw [Environment.valuesOf, List.getLast?_map]
  exact congrArg (lastOf? (lower · = name)) hall

/-- Of one variable the last is the first. -/
theorem value?_of_single (h : (env.valuesOf name).length ≤ 1) :
    Environment.value? {} env name = (env.valuesOf name).head? := by
  rw [value?_usual]
  cases hvalues : env.valuesOf name with
  | nil => rfl
  | cons t rest =>
      rw [hvalues, List.length_cons] at h
      rw [List.eq_nil_of_length_eq_zero (Nat.le_zero.1 (Nat.le_of_succ_le_succ h))]
      rfl

theorem given?_of_single {x : Setting} (h : env.GivesSingly x) :
    Environment.given? {} env x =
      (env.valuesOf x.variableName).head?.bind (Setting.ofVariable? {} x) := by
  cases hpart : x.section? with
  | none =>
      obtain rfl : x = .version := by cases x <;> first | rfl | exact absurd hpart nofun
      have hname : Manner.variableOf {} "version".toList =
          Setting.variableName .version := by decide
      rw [Environment.given?, ← value?_of_single h.single, ← hname]
      exact Option.map_eq_bind
  | some part =>
      have hnone : Environment.value? {} env ("depscope_".toList ++ part) = none := by
        rw [value?_usual, h.apart part hpart, List.getLast?_nil]
      have hname : x.variableName = "depscope_".toList ++ part ++
          "__".toList ++ x.name := by
        rw [Setting.variableName, hpart]
      rw [Environment.given?_usual hpart hnone, ← hname, value?_of_single h.single]

theorem check_of_validate {s : Settings} (h : standIn.validate given = .ok s) :
    Settings.check given = .ok s :=
  mapError_eq_ok_iff.1 h

theorem settle_of_ofValue? {x : Setting} {v : Option Value} {a : x.Kind}
    (h : x.ofValue? v = .ok a) : standIn.settle x v = some a := by
  cases v with
  | none => exact congrArg some (Except.ok.inj h)
  | some v => exact congrArg Except.toOption h

theorem documented_standIn : standIn.Documented where
  parameter key h := of_decide_eq_true h
  layers w env given h := by
    have husual : Manner.ofFields given = {} := ofFields_usual fun f hf hlow =>
      Bool.false_ne_true ((h f hf).symm.trans (decide_eq_true hlow))
    change ofData env given = _
    rw [ofData, husual]
    rfl
  arguments_nodup := nodup_named
  arguments_mem _ _ := mem_of_mem_named
  arguments_lookup _ _ hname h := lookup_named hname h
  validate_setting _ _ h x :=
    settle_of_ofValue? (Setting.ofValue?_of_check (check_of_validate h) x)
  validate_section _ _ h _ _ _ hpart hv :=
    Setting.table_of_check (check_of_validate h) hpart hv
  parse_blunt x v hblunt := by
    change (x.check v).toOption = none
    cases h : x.check v with
    | error faults => rfl
    | ok a => exact absurd hblunt (Setting.not_isBlunt h)
  ofEnvironment_single env below h x hsingle := by
    change (Environment.settings {} env).mapError _ = _ at h
    have hagrees := Environment.agrees_settings (mapError_eq_ok_iff.1 h) x
    rwa [given?_of_single hsingle] at hagrees

end StandIn

end Settings

end ImpactGraph
