import ImpactGraph.Rebuild
import ImpactGraph.Proofs.Fallback
import ImpactGraph.Proofs.InputOrder

/-!
# Histories of builds

A build of a kept builder writes to what the builder shows at three places: it
records excluded ids while it selects, it records every examination, and it
keeps outcomes when all went well. Each place is settled by one equation for
any state it may be met in, and since a build starts from a cleared state, the
three together say what it shows, without a word about the build before. That
is why a history is a map over its inputs.

The same equations tell the three ways apart in which a file can fail to get
into the graph. Only one of them is looked for when the graph is put together,
so only that one makes a build fail, and the finder has no say in it.
-/

namespace ImpactGraph

/-- The facts of an outcome, filed under its path. -/
def Outcome.filed (o : Outcome) : Option FileFacts :=
  o.facts.map ({ · with file := o.path })

namespace Builder

variable {b : Builder} {finder : Finder} {files : List Text} {file : Text}

/-! ## What a build writes -/

theorem run_select (b : Builder) (files : List Text) (last : LastBuild) :
    (b.select files).run last =
      (files.filter fun file => !b.isExcluded file,
        { last with
          report := (files.filter b.isExcluded).foldl
            (fun r file => r.recordSkipped file Report.excluded) last.report }) := by
  induction files generalizing last with
  | nil => rfl
  | cons file files ih =>
      rw [select]
      cases hfile : b.isExcluded file with
      | true =>
          rw [List.filter_cons_of_neg (by simp [hfile]), List.filter_cons_of_pos hfile]
          exact ih _
      | false =>
          rw [List.filter_cons_of_pos (by simp [hfile]),
            List.filter_cons_of_neg (by simp [hfile])]
          exact congrArg (Prod.map (file :: ·) id) (ih last)

/-- The files of a list, each with the end of its examination. -/
def examinations (b : Builder) (finder : Finder) (files : List Text) :
    List (Text × Examined) :=
  files.map fun file => (file, b.examineBy finder file)

theorem run_mapM_examineIn (b : Builder) (finder : Finder) (files : List Text)
    (last : LastBuild) :
    (files.mapM (b.examineIn finder)).run last =
      (b.examinations finder files,
        { last with
          report :=
  (b.examinations finder files).foldl (fun r e => note r e.1 e.2) last.report }) := by
  induction files generalizing last with
  | nil => rfl
  | cons file files ih =>
      rw [List.mapM_cons]
      exact congrArg (Prod.map ((file, b.examineBy finder file) :: ·) id) (ih _)

theorem run_commit_of_none {e : Text × Examined} (h : e.2.outcome? = none) (g : Graph)
    (last : LastBuild) : (commit g e).run last = (g, last) := by
  rw [commit, h]
  rfl

theorem run_commit_of_some {e : Text × Examined} {o : Outcome} {facts : FileFacts}
    (h : e.2.outcome? = some o) (hfacts : o.facts = some facts) (g : Graph)
    (last : LastBuild) :
    (commit g e).run last =
      (g.insert { facts with file := o.path },
        { last with outcomes := last.outcomes ++ [o] }) := by
  simp only [commit, h, hfacts]
  rfl

theorem run_foldlM_commit {slots : List (Text × Examined)}
    (h : ∀ e ∈ slots, ∀ o, e.2.outcome? = some o → o.facts.isSome) (g : Graph)
    (last : LastBuild) :
    (slots.foldlM commit g).run last =
      (((slots.filterMap (·.2.outcome?)).filterMap Outcome.filed).foldl Graph.insert g,
        { last with outcomes := last.outcomes ++ slots.filterMap (·.2.outcome?) }) := by
  induction slots generalizing g last with
  | nil =>
      rw [List.filterMap_nil, List.append_nil]
      rfl
  | cons e slots ih =>
      have ih := ih fun e' he' => h e' (List.mem_cons_of_mem _ he')
      rw [List.foldlM_cons, StateT.run_bind]
      cases ho : e.2.outcome? with
      | none =>
          simp only [List.filterMap_cons, ho]
          rw [run_commit_of_none ho]
          exact ih g last
      | some o =>
          obtain ⟨facts, hfacts⟩ :=
            Option.isSome_iff_exists.1 (h e List.mem_cons_self o ho)
          have hfiled : o.filed = some { facts with file := o.path } := by
            rw [Outcome.filed, hfacts]
            rfl
          simp only [List.filterMap_cons, ho, hfiled, List.foldl_cons]
          rw [run_commit_of_some ho hfacts]
          refine (ih _ { last with outcomes := last.outcomes ++ [o] }).trans ?_
          rw [List.append_assoc, List.singleton_append]

/-! ## Examinations -/

theorem examineBy_eq_done {content : Text} {facts : FileFacts}
    (hread : b.workspace.readText file = .ok content)
    (hfound : finder file content = .ok facts) :
    b.examineBy finder file = .done
      { path := file, language := Delegation.languageOf file, facts := some facts } := by
  simp only [examineBy, hread, hfound]

theorem examineBy_eq_failed {content message : Text}
    (hread : b.workspace.readText file = .ok content)
    (hfound : finder file content = .error message) :
    b.examineBy finder file = .failed message := by
  simp only [examineBy, hread, hfound]

/-- An outcome tells of the file that was examined, and has the facts that were found. -/
theorem exists_facts_of_outcome? {o : Outcome}
    (h : (b.examineBy finder file).outcome? = some o) :
    ∃ content facts, b.workspace.readText file = .ok content ∧
      finder file content = .ok facts ∧ o.path = file ∧ o.facts = some facts := by
  cases hread : b.workspace.readText file with
  | error cause =>
      rw [examineBy, hread] at h
      cases cause <;> exact nomatch h
  | ok content =>
      cases hfound : finder file content with
      | error message =>
          rw [examineBy_eq_failed hread hfound] at h
          exact nomatch h
      | ok facts =>
          rw [examineBy_eq_done hread hfound] at h
          obtain rfl := Option.some.inj h
          exact ⟨content, facts, rfl, hfound, rfl, rfl⟩

/-- Reading a file that a build selects fails, and not because the file is missing. -/
def Stops (b : Builder) (file : Text) (cause : FileError) : Prop :=
  b.isExcluded file = false ∧ b.workspace.read file = .error cause ∧ cause ≠ .missing

theorem unreadable?_examineBy_eq_some_iff {u : Unreadable} :
    (b.examineBy finder file).unreadable? file = some u ↔
      u.path = file ∧ b.workspace.read file = .error u.cause ∧ u.cause ≠ .missing := by
  obtain ⟨path, cause⟩ := u
  rw [← readText_eq_error_iff]
  cases hread : b.workspace.readText file with
  | error found =>
      have hmissing : (b.examineBy finder file).unreadable? file =
          if found = .missing then none else some ⟨file, found⟩ := by
        rw [examineBy, hread]
        cases found <;> rfl
      rw [hmissing]
      constructor
      · intro h
        obtain ⟨hne, h⟩ := Option.ite_none_left_eq_some.1 h
        obtain ⟨rfl, rfl⟩ := Unreadable.mk.inj (Option.some.inj h)
        exact ⟨rfl, rfl, hne⟩
      · rintro ⟨rfl, h, hne⟩
        obtain rfl := Except.error.inj h
        exact if_neg hne
  | ok content =>
      refine iff_of_false ?_ (by simp)
      cases hfound : finder file content with
      | error message =>
          rw [examineBy_eq_failed hread hfound]
          exact nofun
      | ok facts =>
          rw [examineBy_eq_done hread hfound]
          exact nofun

theorem mem_examinations {e : Text × Examined} (h : e ∈ b.examinations finder files) :
    e.1 ∈ files ∧ e.2 = b.examineBy finder e.1 := by
  obtain ⟨file, hfile, rfl⟩ := List.mem_map.1 h
  exact ⟨hfile, rfl⟩

/-! ## What a build shows -/

/-- The report of a build, however it ends. -/
def reportBy (b : Builder) (finder : Finder) (files : List Text) : Report :=
  (b.examinations finder (b.selected files)).foldl (fun r e => note r e.1 e.2)
    (((b.ids files).filter b.isExcluded).foldl (fun r file =>
      r.recordSkipped file Report.excluded) {})

/-- The outcomes of the files that facts were found for. -/
def outcomesBy (b : Builder) (finder : Finder) (files : List Text) : List Outcome :=
  (b.examinations finder (b.selected files)).filterMap (·.2.outcome?)

theorem exists_of_mem_outcomesBy {o : Outcome} (h : o ∈ b.outcomesBy finder files) :
    ∃ file content facts, file ∈ b.selected files ∧
      b.workspace.readText file = .ok content ∧
      finder file content = .ok facts ∧ o.path = file ∧ o.facts = some facts := by
  obtain ⟨e, he, ho⟩ := List.mem_filterMap.1 h
  obtain ⟨hfile, hend⟩ := mem_examinations he
  rw [hend] at ho
  obtain ⟨content, facts, hread, hfound, hpath, hfacts⟩ := exists_facts_of_outcome? ho
  exact ⟨e.1, content, facts, hfile, hread, hfound, hpath, hfacts⟩

/-- The first file that could not be read. -/
def unreadableBy (b : Builder) (finder : Finder) (files : List Text) :
    Option Unreadable :=
  (b.examinations finder (b.selected files)).findSome? fun e => e.2.unreadable? e.1

theorem run_examineAll (b : Builder) (finder : Finder) (files : List Text)
    (last : LastBuild) :
    (b.examineAll finder files).run last =
      (b.examinations finder (b.selected files),
        { report := b.reportBy finder files }) := by
  change ((((b.select (b.ids files)).run {}).1.mapM (b.examineIn finder)).run
    ((b.select (b.ids files)).run {}).2) = _
  rw [run_select, run_mapM_examineIn]
  rfl

theorem run_rebuild (b : Builder) (finder : Finder) (files : List Text)
    (last : LastBuild) :
    (b.rebuild finder files).run last =
      (b.settle (b.examinations finder (b.selected files))).run
        { report := b.reportBy finder files } := by
  rw [rebuild, StateT.run_bind, run_examineAll]
  rfl

theorem first_of_unreadable {u : Unreadable} (h : b.unreadableBy finder files = some u) :
    b.first finder files = (.error u, { report := b.reportBy finder files }) := by
  rw [unreadableBy] at h
  rw [first, run_rebuild]
  simp only [settle, h]
  rfl

theorem first_of_readable (h : b.unreadableBy finder files = none) :
    b.first finder files =
      (.ok (((b.outcomesBy finder files).filterMap Outcome.filed).foldl Graph.insert
        { root := b.root }),
        { report := b.reportBy finder files,
          outcomes := b.outcomesBy finder files }) := by
  have hfacts : ∀ e ∈ b.examinations finder (b.selected files), ∀ o,
    e.2.outcome? = some o →
      o.facts.isSome := by
    intro e he o ho
    have hmem : o ∈ b.outcomesBy finder files := List.mem_filterMap.2 ⟨e, he, ho⟩
    obtain ⟨_, _, facts, -, -, -, -, hfacts⟩ := exists_of_mem_outcomesBy hmem
    rw [hfacts]
    rfl
  rw [unreadableBy] at h
  rw [first, run_rebuild]
  simp only [settle, h]
  exact congrArg (Prod.map Except.ok id)
    (run_foldlM_commit hfacts { root := b.root } { report := b.reportBy finder files })

theorem graph_first_eq_error_iff {u : Unreadable} :
    (b.first finder files).1 = .error u ↔ b.unreadableBy finder files = some u := by
  cases h : b.unreadableBy finder files with
  | none =>
      rw [first_of_readable h]
      exact iff_of_false nofun nofun
  | some found =>
      rw [first_of_unreadable h]
      exact ⟨fun he => congrArg some (Except.error.inj he), fun he =>
        congrArg _ (Option.some.inj he)⟩

theorem report_first (b : Builder) (finder : Finder) (files : List Text) :
    (b.first finder files).2.report = b.reportBy finder files := by
  cases h : b.unreadableBy finder files with
  | none => rw [first_of_readable h]
  | some u => rw [first_of_unreadable h]

/-- However a build ends, its outcomes are among those of the files that facts were found
for. -/
theorem outcomes_first_sublist (b : Builder) (finder : Finder) (files : List Text) :
    (b.first finder files).2.outcomes.Sublist (b.outcomesBy finder files) := by
  cases h : b.unreadableBy finder files with
  | none => rw [first_of_readable h]
  | some u =>
      rw [first_of_unreadable h]
      exact List.nil_sublist _

/-! ## The rules as the finder -/

theorem examineBy_rules (b : Builder) (file : Text) :
    b.examineBy b.rules file = b.examine file := by
  unfold examineBy examine examineWith
  cases b.workspace.readText file with
  | error cause => cases cause <;> rfl
  | ok content =>
      simp only [rules, extractByRules]
      cases b.extractor.extract file content <;> rfl

/-- The rules file facts under the file they are about, so filing them again changes
nothing. -/
theorem filed_of_mem_outcomesBy_rules {o : Outcome} (h : o ∈ b.outcomesBy b.rules files) :
    o.filed = o.facts := by
  obtain ⟨file, content, facts, hfile, -, hfound, hpath, hfacts⟩ :=
    exists_of_mem_outcomesBy h
  have hextract : b.extractor.extract file content = .ok facts := by
    rw [rules] at hfound
    cases hx : b.extractor.extract file content with
    | error u => exact nomatch hx ▸ hfound
    | ok found =>
        exact congrArg _ (Except.ok.inj (hx ▸ hfound : Except.ok found = .ok facts))
  have hname : facts.file = file :=
    (Extractor.describes_of_extract (isId_of_mem_selected hfile) hextract).1
  rw [Outcome.filed, hfacts, hpath, ← hname]
  rfl

/-- With the rules for a finder, a builder that built nothing before makes the build of
its files. -/
theorem first_rules (b : Builder) (files : List Text) :
    b.first b.rules files =
      ((b.build files).graph, { report := (b.build files).report
                                outcomes := (b.build files).outcomes }) := by
  have hslots : b.examinations b.rules (b.selected files) =
      (b.selected files).map fun file => (file, b.examine file) :=
    List.map_congr_left fun file _ => congrArg (Prod.mk file) (b.examineBy_rules file)
  have hreport : b.reportBy b.rules files = (b.build files).report := by
    rw [reportBy, hslots]
    rfl
  have hfiled : (b.outcomesBy b.rules files).filterMap Outcome.filed =
      (b.outcomesBy b.rules files).filterMap (·.facts) :=
    List.filterMap_congr fun o ho => filed_of_mem_outcomesBy_rules ho
  cases h : b.unreadableBy b.rules files with
  | none =>
      rw [first_of_readable h, hreport, hfiled]
      rw [unreadableBy, hslots] at h
      simp only [build, assemble, h, outcomesBy, hslots]
      rfl
  | some u =>
      rw [first_of_unreadable h, hreport]
      rw [unreadableBy, hslots] at h
      simp only [build, assemble, h]
      rfl

/-! ## The build that raises -/

end Builder

theorem Text.findSome?_foldl_addNew {α : Type} (f : Text → Option α)
    (texts seen : List Text) :
    (texts.foldl addNew seen).findSome? f = (seen ++ texts).findSome? f := by
  induction texts generalizing seen with
  | nil => rw [List.foldl_nil, List.append_nil]
  | cons text texts ih =>
      rw [List.foldl_cons, ih]
      by_cases hseen : text ∈ seen
      · rw [addNew_of_mem hseen, List.findSome?_append, List.findSome?_append]
        cases hfound : seen.findSome? f with
        | some found => rfl
        | none => rw [List.findSome?_cons, List.findSome?_eq_none_iff.1 hfound text hseen]
      · rw [addNew_of_notMem hseen, List.append_assoc, List.singleton_append]

/-- The first text of which something is so comes first among the distinct ones, too. -/
theorem Text.findSome?_distinct {α : Type} (f : Text → Option α) (texts : List Text) :
    (distinct texts).findSome? f = texts.findSome? f :=
  findSome?_foldl_addNew f texts []

theorem findSome?_filter {α β : Type} (p : α → Bool) (f : α → Option β) (l : List α) :
    (l.filter p).findSome? f = l.findSome? fun a => if p a then f a else none := by
  induction l with
  | nil => rfl
  | cons a l ih =>
      rw [List.findSome?_cons, ← ih]
      by_cases h : p a = true
      · rw [List.filter_cons_of_pos h, List.findSome?_cons, if_pos h]
      · rw [List.filter_cons_of_neg h, if_neg h]

namespace Builder

variable {w : Workspace} {root : Text} {settings : AnalyzerSettings} {b : Builder}
  {finder : Finder} {files : List Text} {file : Text} {u : Unreadable}

/-- What stops a build at a file, if something does. -/
def stop? (b : Builder) (finder : Finder) (file : Text) : Option Unreadable :=
  if !b.isExcluded file then (b.examineBy finder file).unreadable? file else none

theorem stop?_eq_some_iff : b.stop? finder file = some u ↔ u.path = file ∧
    b.Stops file u.cause := by
  rw [stop?, Option.ite_none_right_eq_some, unreadable?_examineBy_eq_some_iff,
    Bool.not_eq_true', Stops]
  exact and_left_comm

theorem stop?_eq_none_iff : b.stop? finder file = none ↔ ∀ cause,
    ¬ b.Stops file cause := by
  rw [Option.eq_none_iff_forall_ne_some]
  constructor
  · exact fun h cause hstops => h ⟨file, cause⟩ (stop?_eq_some_iff.2 ⟨rfl, hstops⟩)
  · exact fun h u hu => h u.cause (stop?_eq_some_iff.1 hu).2

theorem unreadableBy_forRoot :
    (forRoot w root settings).unreadableBy finder files =
      (files.map (w.canonical root)).findSome?
        ((forRoot w root settings).stop? finder) := by
  rw [unreadableBy, examinations, List.findSome?_map, selected,
    findSome?_filter, ids_forRoot, Text.findSome?_distinct]
  rfl

theorem exists_error_iff :
    (∃ u, ((forRoot w root settings).first finder files).1 = .error u) ↔
      ∃ id ∈ files.map (w.canonical root), ∃ cause,
        (forRoot w root settings).Stops id cause := by
  simp only [graph_first_eq_error_iff, unreadableBy_forRoot]
  rw [← Option.isSome_iff_exists, List.findSome?_isSome_iff]
  refine exists_congr fun id => and_congr_right fun _ => ?_
  rw [Option.isSome_iff_ne_none, Ne, stop?_eq_none_iff, not_forall_not]

theorem eq_error_iff :
    ((forRoot w root settings).first finder files).1 = .error u ↔
      ∃ before after, files.map (w.canonical root) = before ++ u.path :: after ∧
        (forRoot w root settings).Stops u.path u.cause ∧
        ∀ id ∈ before, ∀ cause, ¬ (forRoot w root settings).Stops id cause := by
  rw [graph_first_eq_error_iff, unreadableBy_forRoot, List.findSome?_eq_some_iff]
  simp only [stop?_eq_some_iff, stop?_eq_none_iff]
  constructor
  · rintro ⟨before, id, after, hids, ⟨rfl, hstops⟩, hbefore⟩
    exact ⟨before, after, hids, hstops, hbefore⟩
  · rintro ⟨before, after, hids, hstops, hbefore⟩
    exact ⟨before, u.path, after, hids, ⟨rfl, hstops⟩, hbefore⟩

/-! ## The file whose extraction fails -/

variable {content message : Text}

/-- What can be read stops no build. -/
theorem not_stops (h : b.workspace.readText file = .ok content) (cause : FileError) :
    ¬ b.Stops file cause := by
  rintro ⟨-, hread, -⟩
  exact nomatch h.symm.trans (readText_eq_error_iff.2 hread)

theorem failures_reportBy (b : Builder) (finder : Finder) (files : List Text) :
    (b.reportBy finder files).failures =
      (b.examinations finder (b.selected files)).flatMap fun e =>
        (note {} e.1 e.2).failures := by
  rw [reportBy, foldl_note failures_note, foldl_recordSkipped]
  rfl

theorem mem_failures_reportBy (hmem : file ∈ b.selected files)
    (hread : b.workspace.readText file = .ok content)
    (hfound : finder file content = .error message) :
    Failure.extraction message file
      [("language".toList, .ofText? (Delegation.languageOf file))] ∈
      (b.reportBy finder files).failures := by
  rw [failures_reportBy]
  refine List.mem_flatMap.2 ⟨(file, .failed message), ?_, List.mem_singleton_self _⟩
  rw [← examineBy_eq_failed hread hfound]
  exact List.mem_map_of_mem hmem

theorem path_ne_of_mem_outcomesBy (hread : b.workspace.readText file = .ok content)
    (hfound : finder file content = .error message) {o : Outcome}
    (ho : o ∈ b.outcomesBy finder files) : o.path ≠ file := by
  rintro rfl
  obtain ⟨_, content', facts, -, hread', hfound', rfl, -⟩ := exists_of_mem_outcomesBy ho
  obtain rfl := Except.ok.inj (hread.symm.trans hread')
  exact nomatch hfound.symm.trans hfound'

/-- The nodes of a graph are filed under the paths of the outcomes. -/
theorem exists_outcome_of_mem_nodes {g : Graph} (hg : (b.first finder files).1 = .ok g)
    {node : FileFacts} (hnode : node ∈ g.nodes) :
    ∃ o ∈ b.outcomesBy finder files, o.path = node.file := by
  cases h : b.unreadableBy finder files with
  | some u =>
      rw [first_of_unreadable h] at hg
      exact nomatch hg
  | none =>
      rw [first_of_readable h] at hg
      obtain rfl := Except.ok.inj hg
      rcases Graph.mem_foldl_insert_nodes hnode with hnode | hnode
      · exact absurd hnode List.not_mem_nil
      · obtain ⟨o, ho, hfiled⟩ := List.mem_filterMap.1 hnode
        obtain ⟨facts, -, rfl⟩ := Option.map_eq_some_iff.1 hfiled
        exact ⟨o, ho, rfl⟩

/-! ## Histories -/

theorem run_history (b : Builder) (finder : Finder) (inputs : List (List Text))
    (last : LastBuild) :
    ((b.history finder inputs).run last).1 = inputs.map (b.first finder) := by
  induction inputs generalizing last with
  | nil => rfl
  | cons files inputs ih =>
      rw [history, List.mapM_cons]
      exact congrArg (List.cons (b.first finder files)) (ih _)

end Builder

/-- Whatever a builder built before, each build of a history ends and shows what it would
if it were the first. With the rules for a finder that is the build of its files. A build
raises when and only when an id of its list is not excluded and cannot be read for another
reason than that it is missing; it raises for the first of these. A text that the finder
has no facts for costs the build that file, and no more. -/
theorem builds_of_history (w : Workspace) (root : Text) (settings : AnalyzerSettings)
    (finder : Finder) (inputs : List (List Text)) (last : LastBuild) :
    let b := Builder.forRoot w root settings
    ((b.history finder inputs).run last).1 = inputs.map (b.first finder) ∧
    ∀ files : List Text,
      b.first b.rules files =
        ((b.build files).graph, ⟨(b.build files).report, (b.build files).outcomes⟩) ∧
      ((∃ u, (b.first finder files).1 = .error u) ↔
        ∃ id ∈ files.map (w.canonical root), ∃ cause, b.Stops id cause) ∧
      (∀ u, (b.first finder files).1 = .error u ↔
        ∃ before after, files.map (w.canonical root) = before ++ u.path :: after ∧
          b.Stops u.path u.cause ∧ ∀ id ∈ before, ∀ cause, ¬ b.Stops id cause) ∧
      ∀ id ∈ files.map (w.canonical root), ∀ content message, b.isExcluded id = false →
        w.readText id = .ok content → finder id content = .error message →
        (∀ cause, ¬ b.Stops id cause) ∧
          Failure.extraction message id
              [("language".toList, .ofText? (Delegation.languageOf id))] ∈
            (b.first finder files).2.report.failures ∧
          (∀ o ∈ (b.first finder files).2.outcomes, o.path ≠ id) ∧
          ∀ g, (b.first finder files).1 = .ok g → ∀ node ∈ g.nodes, node.file ≠ id := by
  intro b
  refine ⟨b.run_history finder inputs last, fun files => ⟨b.first_rules files,
    Builder.exists_error_iff, fun u => Builder.eq_error_iff, ?_⟩⟩
  intro id hid content message hkept hread hfound
  have hselected : id ∈ b.selected files := Builder.mem_selected_forRoot.2 ⟨hid, hkept⟩
  refine ⟨Builder.not_stops hread, ?_, fun o ho => ?_, fun g hg node hnode => ?_⟩
  · rw [Builder.report_first]
    exact Builder.mem_failures_reportBy hselected hread hfound
  · exact Builder.path_ne_of_mem_outcomesBy hread hfound
      ((b.outcomes_first_sublist finder files).subset ho)
  · obtain ⟨o, ho, hfile⟩ := Builder.exists_outcome_of_mem_nodes hg hnode
    exact hfile ▸ Builder.path_ne_of_mem_outcomesBy hread hfound ho

/-- A builder for the project with a file of every fate. -/
def mixedBuilder : Builder := .forRoot mixedFiles ['.'] {}

/-- Between two builds of the same files one raises, for a directory that comes before a
path below a file. The rules have no facts for a file that needs that directory to be a
file. -/
theorem builds_of_mixedFiles :
    let whole := ["m.go".toList, "a.py".toList]
    let stopped := ["a.py".toList, "./go.mod".toList, "a.py/x".toList]
    ((mixedBuilder.history mixedBuilder.rules [whole, stopped, whole]).run {}).1 =
        [whole, stopped, whole].map (mixedBuilder.first mixedBuilder.rules) ∧
      (mixedBuilder.first mixedBuilder.rules stopped).1 =
        .error ⟨"/p/go.mod".toList, .isDirectory⟩ ∧
      Failure.extraction "[Errno 21] Is a directory: '/p/go.mod'".toList "/p/m.go".toList
          [("language".toList, .text "go".toList)] ∈
        (mixedBuilder.first mixedBuilder.rules whole).2.report.failures := by
  intro whole stopped
  have hbuilder : Builder.forRoot mixedFiles ['.'] {} = mixedBuilder := rfl
  obtain ⟨hhistory, hbuilds⟩ :=
    builds_of_history mixedFiles ['.'] {} mixedBuilder.rules [whole, stopped, whole] {}
  simp only [hbuilder] at hhistory hbuilds
  obtain ⟨-, -, hfirst, -⟩ := hbuilds stopped
  obtain ⟨-, -, -, hfailed⟩ := hbuilds whole
  refine ⟨hhistory,
    (hfirst _).2 ⟨["/p/a.py".toList], ["/p/a.py/x".toList], ?_, ⟨?_, ?_, nofun⟩,
    fun id hid => ?_⟩, ?_⟩
  · decide
  · decide +kernel
  · decide
  · obtain rfl := List.mem_singleton.1 hid
    have hread : mixedFiles.readText "/p/a.py".toList = .ok [] := by decide +kernel
    exact Builder.not_stops hread
  · have hlisted : "/p/m.go".toList ∈ whole.map (mixedFiles.canonical ['.']) := by decide
    have hkept : mixedBuilder.isExcluded "/p/m.go".toList = false := by decide +kernel
    have hread : mixedFiles.readText "/p/m.go".toList = .ok "import \"x\"".toList := by
      decide +kernel
    have hfound : mixedBuilder.rules "/p/m.go".toList "import \"x\"".toList =
        .error "[Errno 21] Is a directory: '/p/go.mod'".toList := by decide
    have hlanguage : Delegation.languageOf "/p/m.go".toList = some "go".toList := by
      decide
    have hrecorded := (hfailed _ hlisted _ _ hkept hread hfound).2.1
    rw [hlanguage, Value.ofText?] at hrecorded
    exact hrecorded

end ImpactGraph
