import ImpactGraph.Proofs.SettingsLibrary
import ImpactGraph.Proofs.TableKeys
import ImpactGraph.Settings.Load

/-!
# Where each setting comes from

Loading reads one file and hands what it says to the library that makes settings, which
lays it on top of what the environment says. A section of the file is no answer for the
settings it does not name: tables are joined field by field, so every setting comes by
itself from the file, else from the environment, else from the defaults. Tables of a file
have no key twice and no setting is a table, which is why the joining of values that are
tables themselves never shows.

All that stands at the top of the file becomes an argument, also what is a parameter of
the library's own. Such a key can make the library read variables in another way or look
at further files, so what is said here about files and variables is said of files that
have none.
-/

namespace ImpactGraph

open Text

/-! ## What a file gives -/

/-- The name at the top of the data that leads to a setting: its section, or its own
name. -/
def Setting.topName (x : Setting) : Text := x.section?.getD x.name

/-- What the fields of a settings file give for a setting: a field of its section, or the
version at the top, else that of the program's own table. -/
def Setting.fileValue? (fields : List (Text × Value)) (x : Setting) : Option Value :=
  match x.section? with
  | none =>
    (fields.lookup x.name).or ((fields.lookup "depscope".toList).bind (·.get? x.name))
  | some part => (fields.lookup part).bind (·.get? x.name)

namespace Settings

section Versions

variable {fields given : List (Text × Value)} {name part : Text} {x : Setting}

/-- All fields but those of a key. -/
def without (key : Text) (fields : List (Text × Value)) : List (Text × Value) :=
  fields.filter (·.1 ≠ key)

theorem lookup_without {key : Text} (hkey : name ≠ key) (fields : List (Text × Value)) :
    (without key fields).lookup name = fields.lookup name := by
  unfold without
  induction fields with
  | nil => rfl
  | cons f fields ih =>
      rw [List.filter_cons, lookup_cons_ite]
      by_cases hf : f.1 = key
      · rw [if_neg (by simp [hf]), ih, if_neg fun h => hkey (h.trans hf)]
      · rw [if_pos (by simp [hf]), lookup_cons_ite, ih]

/-- The version in the program's own table. -/
def ownVersion? (fields : List (Text × Value)) : Option Value :=
  (fields.lookup "depscope".toList).bind (·.get? "version".toList)

/-- The program's own version is added where there is none at the top. -/
theorem withVersion_cases (fields : List (Text × Value)) :
    let others := without "depscope".toList fields
    (∃ v, ownVersion? fields = some v ∧ withVersion fields =
      others ++ [("version".toList, v)]) ∨
      (ownVersion? fields = none ∨ ∃ v, others.lookup "version".toList = some v) ∧
        withVersion fields = others := by
  intro others
  unfold withVersion ownVersion?
  dsimp only
  split
  · rename_i own hown
    rw [hown]
    split
    · rename_i v hv hnone
      exact .inl ⟨v, hv, rfl⟩
    · rename_i hnot
      refine .inr ⟨?_, rfl⟩
      cases hv : own.lookup "version".toList with
      | none => exact .inl hv
      | some v =>
          cases htop : others.lookup "version".toList with
          | none => exact absurd htop (hnot v hv)
          | some u => exact .inr ⟨u, rfl⟩
  · rename_i hnot
    refine .inr ⟨.inl ?_, rfl⟩
    cases hown : fields.lookup "depscope".toList with
    | none => rfl
    | some v =>
        cases v with
        | table own => exact absurd hown (hnot own)
        | _ => rfl

theorem lookup_withVersion (hversion : name ≠ "version".toList)
    (hown : name ≠ "depscope".toList) (fields : List (Text × Value)) :
    (withVersion fields).lookup name = fields.lookup name := by
  obtain ⟨v, -, h⟩ | ⟨-, h⟩ := withVersion_cases fields
  · rw [h, lookup_append_single, lookup_without hown, if_neg hversion, Option.or_none]
  · rw [h, lookup_without hown]

theorem version_withVersion (fields : List (Text × Value)) :
    (withVersion fields).lookup "version".toList =
      (fields.lookup "version".toList).or (ownVersion? fields) := by
  have hne : "version".toList ≠ "depscope".toList := by decide
  obtain ⟨v, hv, h⟩ | ⟨hnone | ⟨v, hv⟩, h⟩ := withVersion_cases fields
  · rw [h, hv, lookup_append_single, if_pos rfl, lookup_without hne]
  · rw [h, hnone, Option.or_none, lookup_without hne]
  · rw [lookup_without hne] at hv
    rw [h, lookup_without hne, hv, Option.some_or]

theorem part_cases (hpart : x.section? = some part) :
    part ∈ names ∧ part ≠ "version".toList ∧ part ≠ "depscope".toList := by
  cases x <;> cases hpart <;> decide

theorem eq_version_of_section (hpart : x.section? = none) : x = .version := by
  cases x <;> first | rfl | exact absurd hpart nofun

theorem topName_mem_names (x : Setting) : x.topName ∈ names := by cases x <;> decide

/-- The version that is added is a field of the same name, and everything else was there
before. -/
theorem mem_withVersion {f : Text × Value} (h : f ∈ withVersion fields) :
    f ∈ fields ∨ f.1 = "version".toList ∧ ownVersion? fields = some f.2 := by
  obtain ⟨v, hv, hversion⟩ | ⟨-, hversion⟩ := withVersion_cases fields
  · rw [hversion] at h
    obtain h | h := List.mem_append.1 h
    · exact .inl (List.mem_filter.1 h).1
    · rw [List.mem_singleton.1 h]
      exact .inr ⟨rfl, hv⟩
  · rw [hversion] at h
    exact .inl (List.mem_filter.1 h).1

theorem isExact_withVersion (h : IsExact fields name) :
    IsExact (withVersion fields) name := by
  intro f hf hlower
  obtain hf | ⟨hversion, -⟩ := mem_withVersion hf
  · exact h f hf hlower
  · rw [← hlower, hversion]
    exact (lower_of_mem_names _ List.mem_cons_self).symm

/-- The arguments of a library hold for a setting what the file gives for it, if its
section or its own name is written as it is. -/
theorem valueIn_arguments {lib : Library} (hlib : lib.Documented)
    (h : IsExact fields x.topName) :
    x.valueIn (lib.arguments (withVersion fields)) = x.fileValue? fields := by
  have hlookup := hlib.arguments_lookup _ _ (topName_mem_names x) (isExact_withVersion h)
  unfold Setting.topName at hlookup
  unfold Setting.valueIn Setting.fileValue?
  cases hpart : x.section? with
  | none =>
      obtain rfl := eq_version_of_section hpart
      exact hlookup.trans (version_withVersion fields)
  | some part =>
      obtain ⟨-, hversion, hown⟩ := part_cases hpart
      rw [hpart, Option.getD_some, lookup_withVersion hversion hown] at hlookup
      exact congrArg (·.bind (·.get? x.name)) hlookup

end Versions

/-! ## Loading -/

section Loaded

variable {w w' : Workspace} {home : Text} {env : Environment} {named : Option Text}
  {paths : List Text} {path : Text} {fields below : List (Text × Value)} {s : Settings}
  {lib : Library}

/-- The file of a path is read and writes such fields. -/
def Writes (w : Workspace) (path : Text) (fields : List (Text × Value)) : Prop :=
  ∃ bytes text, w.read path = .ok bytes ∧ decode bytes = .ok text ∧
    Toml.read text = .ok fields

/-- The fields of the first file that exists; none when there is no such file. -/
def FirstWrites (w : Workspace) (paths : List Text)
    (fields : List (Text × Value)) : Prop :=
  match paths.find? (exists? w) with
  | some path => Writes w path fields
  | none => fields = []

/-- The paths that are tried: those up to the first that exists. -/
def tried (w : Workspace) (paths : List Text) : List Text :=
  paths.takeWhile (!exists? w ·) ++ (paths.find? (exists? w)).toList

/-- What lies at a path is the same in two workspaces. -/
def SameAt (w w' : Workspace) (path : Text) : Prop :=
  exists? w' path = exists? w path ∧ w'.read path = w.read path

theorem find?_of_sameAt (h : ∀ path ∈ tried w paths, SameAt w w' path) :
    paths.find? (exists? w') = paths.find? (exists? w) := by
  induction paths with
  | nil => rfl
  | cons path paths ih =>
      unfold tried at h ih
      rw [List.find?_cons, List.find?_cons]
      cases hpath : exists? w path with
      | true =>
          rw [List.find?_cons_of_pos hpath] at h
          rw [(h path (by simp)).1, hpath]
      | false =>
          rw [List.takeWhile_cons_of_pos (by simp [hpath]),
            List.find?_cons_of_neg (by simp [hpath]), List.cons_append] at h
          obtain ⟨hfirst, hrest⟩ := List.forall_mem_cons.1 h
          rw [hfirst.1, hpath]
          exact ih hrest

theorem writes_of_readFile {given : List (Text × Value)}
    (h : readFile w path = .ok given) :
    ∃ fields, Writes w path fields ∧ given = withVersion fields := by
  unfold readFile at h
  split at h
  · exact absurd h nofun
  · rename_i bytes hbytes
    split at h
    · exact absurd h nofun
    · rename_i text htext
      split at h
      · rename_i fields hfields
        exact ⟨fields, ⟨bytes, text, hbytes, htext, hfields⟩, (Except.ok.inj h).symm⟩
      · exact absurd h nofun
      · exact absurd h nofun

theorem firstWrites_of_load (h : load lib w home env named = .ok s) :
    ∃ place fields, homeDirectory? home = some place ∧
      FirstWrites w (locations w.cwd place named) fields ∧
        lib.construct w env (withVersion fields) = .ok s := by
  unfold load at h
  split at h
  · cases h
  · rename_i place hplace
    split at h
    · rename_i hnone
      exact ⟨place, [], hplace, by rw [FirstWrites, hnone], h⟩
    · rename_i path hpath
      split at h
      · rename_i given hgiven
        obtain ⟨fields, hfields, rfl⟩ := writes_of_readFile hgiven
        exact ⟨place, fields, hplace, by rwa [FirstWrites, hpath], h⟩
      · cases h

theorem Writes.readFile_eq (h : Writes w path fields) :
    readFile w path = .ok (withVersion fields) := by
  obtain ⟨bytes, text, hbytes, htext, hfields⟩ := h
  unfold readFile
  rw [hbytes]
  dsimp only
  rw [htext]
  dsimp only
  rw [hfields]

/-- What the first file writes is what the library is given. -/
theorem load_of_firstWrites (lib : Library) (env : Environment) {place : Text}
    (hplace : homeDirectory? home = some place)
    (h : FirstWrites w (locations w.cwd place named) fields) :
    load lib w home env named = lib.construct w env (withVersion fields) := by
  unfold FirstWrites at h
  unfold load
  rw [hplace]
  dsimp only
  split at h
  · rename_i path hpath
    rw [hpath]
    dsimp only
    rw [h.readFile_eq]
  · rename_i hnone
    rw [hnone, h]
    rfl

theorem firstWrites_congr (h : ∀ path ∈ tried w paths, SameAt w w' path)
    (hfields : FirstWrites w paths fields) : FirstWrites w' paths fields := by
  unfold FirstWrites at hfields ⊢
  rw [find?_of_sameAt h]
  cases hfirst : paths.find? (exists? w) with
  | none =>
      rw [hfirst] at hfields
      exact hfields
  | some path =>
      have hpath : path ∈ tried w paths :=
        List.mem_append_right _ (by rw [hfirst]; exact List.mem_singleton_self path)
      rw [hfirst] at hfields
      obtain ⟨bytes, text, hread, hrest⟩ := hfields
      exact ⟨bytes, text, (h path hpath).2.trans hread, hrest⟩

theorem isKeyed_of_firstWrites (h : FirstWrites w paths fields) :
    Toml.IsKeyed (.table fields) := by
  unfold FirstWrites at h
  split at h
  · obtain ⟨bytes, text, -, -, hfields⟩ := h
    exact Toml.isKeyed_of_read hfields
  · exact h ▸ .empty

theorem isKeyed_withVersion (h : Toml.IsKeyed (.table fields)) :
    ∀ f ∈ withVersion fields, Toml.IsKeyed f.2 := by
  intro f hf
  obtain hf | ⟨-, hown⟩ := mem_withVersion hf
  · exact h.forall_mem f hf
  · obtain ⟨own, hown, hv⟩ := Option.bind_eq_some_iff.1 hown
    cases own with
    | table own => exact (h.of_lookup hown).of_lookup hv
    | _ => exact absurd hv nofun

/-- The tables among the arguments have no key twice. -/
theorem nodup_of_arguments (hlib : lib.Documented)
    {given inner : List (Text × Value)} {name : Text} (h : ∀ f ∈ given, Toml.IsKeyed f.2)
    (hinner : (lib.arguments given).lookup name = some (.table inner)) :
    (inner.map (·.1)).Nodup := by
  obtain ⟨front, rear, hsaid, -⟩ := List.lookup_eq_some_iff.1 hinner
  obtain ⟨f, hf, heq⟩ := hlib.arguments_mem given (name, .table inner)
    (hsaid ▸ List.mem_append_right front List.mem_cons_self)
  have hkeyed := h f hf
  rw [heq] at hkeyed
  exact hkeyed.nodup_keys

/-- No parameter of the library's own comes from the version of the program's table. -/
theorem isParameter_withVersion (hlib : lib.Documented)
    (h : ∀ f ∈ fields, lib.isParameter f.1 = false) :
    ∀ f ∈ withVersion fields, lib.isParameter f.1 = false := by
  intro f hf
  obtain hf | ⟨hversion, -⟩ := mem_withVersion hf
  · exact h f hf
  · refine Bool.not_eq_true _ ▸ fun hparameter => ?_
    have hlow := hlib.parameter _ hparameter
    rw [hversion] at hlow
    exact absurd hlow (by decide)

theorem ok_of_layers {given : List (Text × Value)} (hlib : lib.Documented)
    (hgiven : ∀ f ∈ given, lib.isParameter f.1 = false)
    (h : lib.construct w env given = .ok s) :
    ∃ below, lib.ofEnvironment env = .ok below ∧
      lib.validate (Environment.mergeFields (lib.arguments given) below) = .ok s :=
  ok_of_bind_eq_ok (hlib.layers w env given hgiven ▸ h)

/-- Settings that are loaded are what the library makes of the fields of one file, the
first that exists. If none of these is a parameter of the library's own, nothing behind
that file is looked at, and each setting has the value that the arguments hold for it,
else the value that the variables hold for it, else its default. What the arguments hold
is what the file gives for the setting, if its section or its own name is not written in
other cases of letters. What the variables hold is what the text of the setting's own
variable stands for, if it has one such variable at most and none gives its section as a
whole. -/
theorem settings_of_load (hlib : lib.Documented) (h : load lib w home env named = .ok s) :
    ∃ place fields, homeDirectory? home = some place ∧
      let paths := locations w.cwd place named
      FirstWrites w paths fields ∧ lib.construct w env (withVersion fields) = .ok s ∧
        ((∀ f ∈ fields, lib.isParameter f.1 = false) →
          (∀ w' : Workspace, w'.cwd = w.cwd → (∀ path ∈ tried w paths, SameAt w w' path) →
            load lib w' home env named = .ok s) ∧
          ∃ below, lib.ofEnvironment env = .ok below ∧ ∀ x : Setting,
            let above := x.valueIn (lib.arguments (withVersion fields))
            lib.settle x (above.or (x.valueIn below)) = some (x.get s) ∧
              (IsExact fields x.topName → above = x.fileValue? fields) ∧
              (env.GivesSingly x → lib.settle x (above.or
                ((env.valuesOf x.variableName).head?.bind (lib.decode x))) =
                  some (x.get s))) := by
  obtain ⟨place, fields, hplace, hfields, hdata⟩ := firstWrites_of_load h
  refine ⟨place, fields, hplace, hfields, hdata, fun hplain => ?_⟩
  have hgiven := isParameter_withVersion hlib hplain
  obtain ⟨below, hbelow, hvalid⟩ := ok_of_layers hlib hgiven hdata
  refine ⟨fun w' hcwd hsame => ?_, below, hbelow, fun x => ?_⟩
  · have hload := load_of_firstWrites lib env hplace
      (hcwd.symm ▸ firstWrites_congr hsame hfields)
    rw [hload, hlib.layers w' env _ hgiven, ← hlib.layers w env _ hgiven, hdata]
  · have hkeyed := isKeyed_withVersion (isKeyed_of_firstWrites hfields)
    have hsettled := hlib.settle_of_mergeFields (x := x) (hlib.arguments_nodup _)
      (fun _ _ _ hinner => nodup_of_arguments hlib hkeyed hinner) hvalid
    refine ⟨hsettled, valueIn_arguments hlib, fun hsingle => ?_⟩
    have hagrees := hlib.ofEnvironment_single env below hbelow x hsingle
    exact hlib.settle_of_agrees hagrees hsettled

theorem Writes.unique {other : List (Text × Value)} (h : Writes w path fields)
    (hother : Writes w path other) : fields = other := by
  obtain ⟨bytes, text, hbytes, htext, hfields⟩ := h
  obtain ⟨bytes', text', hbytes', htext', hfields'⟩ := hother
  obtain rfl := Except.ok.inj (hbytes.symm.trans hbytes')
  obtain rfl := Except.ok.inj (htext.symm.trans htext')
  exact Except.ok.inj (hfields.symm.trans hfields')

theorem FirstWrites.unique {other : List (Text × Value)} (h : FirstWrites w paths fields)
    (hother : FirstWrites w paths other) : fields = other := by
  unfold FirstWrites at h hother
  cases hfirst : paths.find? (exists? w) with
  | none =>
      rw [hfirst] at h hother
      exact h.trans hother.symm
  | some path =>
      rw [hfirst] at h hother
      exact h.unique hother

/-- What a file of one line writes. -/
theorem Writes.of_line {text : Text} {d : Toml.Document}
    (hread : w.read path = .ok (encode text))
    (htext : (decode (encode text)).toOption = some text)
    (hlines : Toml.plainLines text = text) (hne : text ≠ [])
    (h : ({} : Toml.Document).statement (Toml.dropGaps text) = .ok (d, ['\n'])) :
    Writes w path d.fields := by
  refine ⟨encode text, text, hread, ok_of_toOption htext, ?_⟩
  rw [Toml.read, hlines, Toml.readFrom_line hne h]
  rfl

end Loaded

/-! ## Files of one line -/

/-- A file named by the user with one setting, and one in the home directory with
another. -/
def twoSettingsFiles : Workspace :=
  (({ tree := .directory [], cwd := "/p".toList } : Workspace).put
    "c.toml".toList (.file (encode "analyzer.max_depth = 3\n".toList))).put
    "/u/.depscope.toml".toList (.file (encode "visualizer.max_nodes = 7\n".toList))

/-- What the first of the files writes. -/
def namedFields : List (Text × Value) :=
  [("analyzer".toList, .table [("max_depth".toList, .int 3)])]

theorem writes_namedFields : Writes twoSettingsFiles "c.toml".toList namedFields := by
  have hkey : Toml.key? "analyzer.max_depth = 3\n".toList =
      some (["analyzer".toList, "max_depth".toList], '=' :: " 3\n".toList) := by
    decide +kernel
  have hnumber : Toml.scalar "3\n".toList = .ok (.int 3, ['\n']) := rfl
  have hstatement : ({} : Toml.Document).statement
      (Toml.dropGaps "analyzer.max_depth = 3\n".toList) =
        .ok (⟨namedFields, _, _⟩, ['\n']) :=
    Toml.pair_of_scalar hkey rfl (by decide) (by decide) hnumber rfl
  exact .of_line (by decide +kernel) (by decide +kernel) (by decide +kernel)
    (by decide +kernel) hstatement

/-- Variables for two settings of one section. -/
def twoVariables : Environment :=
  [("DEPSCOPE_ANALYZER__MAX_DEPTH".toList, "9".toList),
    ("depscope_analyzer__analyze_internal".toList, "false".toList)]

/-- The depth comes from the file, the other setting of its section from the environment,
and the diagram has its default: the file of the home directory says nothing. -/
theorem settings_of_twoFiles : ∃ s,
    load standIn twoSettingsFiles "/u".toList twoVariables (some "c.toml".toList) =
      .ok s ∧
      s.analyzer.maxDepth = 3 ∧ s.analyzer.recordCalls = false ∧
        s.diagram.maxNodes = 20 := by
  have hplace : homeDirectory? "/u".toList = some "/u".toList := by decide
  have hfirst : (locations twoSettingsFiles.cwd "/u".toList (some "c.toml".toList)).find?
      (exists? twoSettingsFiles) = some "c.toml".toList := by decide
  have hwrites : FirstWrites twoSettingsFiles
      (locations twoSettingsFiles.cwd "/u".toList (some "c.toml".toList))
        namedFields := by
    rw [FirstWrites, hfirst]
    exact writes_namedFields
  have hok : (ofData twoVariables (withVersion namedFields)).toOption.isSome = true := by
    decide +kernel
  have hplain : ∀ f ∈ namedFields, standIn.isParameter f.1 = false := by decide
  have hexact (x : Setting) : IsExact namedFields x.topName := by cases x <;> decide
  have hsingly (x : Setting) : twoVariables.GivesSingly x :=
    ⟨by cases x <;> decide, by cases x <;> decide⟩
  have hcalls :
      standIn.settle .recordCalls ((Setting.recordCalls.fileValue? namedFields).or
        ((twoVariables.valuesOf (Setting.variableName .recordCalls)).head?.bind
          (standIn.decode .recordCalls))) = some false := by
    decide +kernel
  have hnodes : standIn.settle .maxNodes ((Setting.maxNodes.fileValue? namedFields).or
      ((twoVariables.valuesOf (Setting.variableName .maxNodes)).head?.bind
        (standIn.decode .maxNodes))) = some (20 : Int) := by
    decide +kernel
  cases hs : ofData twoVariables (withVersion namedFields) with
  | error e => exact absurd hok (by rw [hs]; exact Bool.false_ne_true)
  | ok s =>
      have hloaded := (load_of_firstWrites standIn twoVariables hplace hwrites).trans hs
      obtain ⟨place, fields, hplace', hfields, -, hrest⟩ :=
        settings_of_load documented_standIn hloaded
      obtain rfl := Option.some.inj (hplace.symm.trans hplace')
      obtain rfl : fields = namedFields := hfields.unique hwrites
      obtain ⟨-, below, -, hall⟩ := hrest hplain
      have hvalue (x : Setting) : standIn.settle x ((x.fileValue? namedFields).or
          ((twoVariables.valuesOf x.variableName).head?.bind (standIn.decode x))) =
            some (x.get s) := by
        obtain ⟨-, habove, hsingle⟩ := hall x
        exact habove (hexact x) ▸ hsingle (hsingly x)
      exact ⟨s, hloaded, (Option.some.inj (hvalue .maxDepth)).symm,
        Option.some.inj ((hvalue .recordCalls).symm.trans hcalls),
        Option.some.inj ((hvalue .maxNodes).symm.trans hnodes)⟩

/-- A file that gives no setting and asks for variables with another start. -/
def renamingFile : Workspace :=
  ({ tree := .directory [], cwd := "/p".toList } : Workspace).put
    "c.toml".toList (.file (encode "_env_prefix = \"X_\"\n".toList))

/-- What it writes. -/
def renamingFields : List (Text × Value) := [("_env_prefix".toList, .text "X_".toList)]

theorem writes_renamingFields : Writes renamingFile "c.toml".toList renamingFields := by
  have hkey : Toml.key? "_env_prefix = \"X_\"\n".toList =
      some (["_env_prefix".toList], '=' :: " \"X_\"\n".toList) := by decide +kernel
  have hstring : Toml.string? "\"X_\"\n".toList = some ("X_".toList, ['\n']) := by
    decide +kernel
  have hscalar : Toml.scalar "\"X_\"\n".toList = .ok (.text "X_".toList, ['\n']) := by
    change (Toml.must (Toml.string? "\"X_\"\n".toList)).map _ = _
    rw [hstring]
    rfl
  have hstatement : ({} : Toml.Document).statement
      (Toml.dropGaps "_env_prefix = \"X_\"\n".toList) =
        .ok (⟨renamingFields, _, _⟩, ['\n']) :=
    Toml.pair_of_scalar hkey rfl (by decide) (by decide) hscalar rfl
  exact .of_line (by decide +kernel) (by decide +kernel) (by decide +kernel)
    (by decide +kernel) hstatement

/-- The file gives nothing for a setting and its variable, the only one there is, says 3,
but what is loaded is the default. -/
theorem variable_lost_of_renamingFile :
    let env : Environment := [("DEPSCOPE_INDEXER__CONCURRENCY".toList, "3".toList)]
    Writes renamingFile "c.toml".toList renamingFields ∧
      (Setting.concurrency.fileValue? renamingFields).isNone = true ∧
      env.GivesSingly .concurrency ∧
      standIn.settle .concurrency
        ((env.valuesOf (Setting.variableName .concurrency)).head?.bind
        (standIn.decode .concurrency)) = some (3 : Int) ∧
      (load standIn renamingFile "/u".toList env (some "c.toml".toList)).toOption.map
        (·.indexer.concurrency) = some 8 := by
  have hplace : homeDirectory? "/u".toList = some "/u".toList := by decide
  have hfirst : (locations renamingFile.cwd "/u".toList (some "c.toml".toList)).find?
      (exists? renamingFile) = some "c.toml".toList := by decide
  have hwrites : FirstWrites renamingFile
      (locations renamingFile.cwd "/u".toList (some "c.toml".toList)) renamingFields := by
    rw [FirstWrites, hfirst]
    exact writes_renamingFields
  intro env
  rw [load_of_firstWrites standIn env hplace hwrites]
  exact ⟨writes_renamingFields, by decide +kernel, ⟨by decide, by decide⟩, by
    decide +kernel, by decide +kernel⟩

end Settings

end ImpactGraph
