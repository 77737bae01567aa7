import ImpactGraph.Diagram
import ImpactGraph.Proofs.ImpactUnions
import ImpactGraph.Proofs.TextParts

/-!
# Diagrams read back

A diagram is put together line by line, so what its lines say is known as soon
as no line holds a break. All lines but the declarations are made of a few
letters and of numbers; a declaration holds a name of a file, and that is the
one place where a break can come in.

Nodes go by their positions. Nothing is shown twice, so a position stands for
a file and a file for a position, and an arrow between two positions is an edge
between two files. The numbers of an arrow end where its digits end, so no two
arrows are drawn alike, and none is drawn like a line of another kind.
-/

namespace ImpactGraph

open Text

/-- The edges between files of a list: by the file they lead from, and those of one file
in their own order. -/
def Graph.edgesAmong (g : Graph) (files : List Text) : List (Text × Text) :=
  files.flatMap fun file => ((g.edgesOf file).filter (· ∈ files)).map (file, ·)

namespace Diagram

/-! ## Numbers of nodes -/

section Numbers

variable {i j k l : Nat}

theorem ofNat_eq (n : Nat) : ofNat n = Nat.toDigits 10 n := Nat.toList_repr

theorem isDigit_of_mem_ofNat {n : Nat} : ∀ c ∈ ofNat n, c.isDigit = true := by
  intro c hc
  rw [ofNat_eq] at hc
  exact Nat.isDigit_of_mem_toDigits (by decide) (by decide) hc

theorem ofNat_inj {m n : Nat} (h : ofNat m = ofNat n) : m = n := by
  rw [ofNat_eq, ofNat_eq] at h
  rw [← @Nat.ofDigitChars_ten_toDigits m, h, Nat.ofDigitChars_ten_toDigits]

/-- The line of an arrow between two nodes. -/
def arrowLine (i j : Nat) : Text :=
  "  ".toList ++ nodeName i ++ " --> ".toList ++ nodeName j

/-- A number ends at the first character that is no digit. -/
theorem number_eq {s t : Text} {x y : Char} (hx : x.isDigit = false)
    (hy : y.isDigit = false) (h : ofNat i ++ x :: s = ofNat j ++ y :: t) :
    i = j ∧ x = y ∧ s = t := by
  have hno {n : Nat} : ∀ c ∈ ofNat n, (!c.isDigit) = false := fun c hc => by
    rw [isDigit_of_mem_ofNat c hc]
    rfl
  obtain ⟨hij, hxy, hst⟩ :=
    eq_of_first (p := fun c => !c.isDigit) hno hno (by simp [hx]) (by simp [hy]) h
  exact ⟨ofNat_inj hij, hxy, hst⟩

theorem arrowLine_eq (i j : Nat) :
    arrowLine i j = "  N".toList ++ (ofNat i ++ ' ' :: ("--> N".toList ++ ofNat j)) := by
  have hline : arrowLine i j =
      "  N".toList ++ (ofNat i ++ " --> ".toList ++ ('N' :: ofNat j)) := rfl
  rw [hline, List.append_assoc]
  rfl

theorem nodeLine_eq (file : Text) (i : Nat) :
    nodeLine file i = "  N".toList ++
      (ofNat i ++ '[' :: ('"' :: label file ++ "\"]".toList)) := by
  have hline : nodeLine file i =
      "  N".toList ++ (ofNat i ++ "[\"".toList ++ label file ++ "\"]".toList) := rfl
  rw [hline, List.append_assoc, List.append_assoc]
  rfl

theorem arrowLine_inj (h : arrowLine i j = arrowLine k l) : i = k ∧ j = l := by
  rw [arrowLine_eq, arrowLine_eq, List.append_cancel_left_eq] at h
  obtain ⟨hik, -, hrest⟩ := number_eq (by decide) (by decide) h
  exact ⟨hik, ofNat_inj (List.append_cancel_left hrest)⟩

theorem arrowLine_ne_nodeLine (file : Text) : arrowLine i j ≠ nodeLine file k := by
  intro h
  rw [arrowLine_eq, nodeLine_eq, List.append_cancel_left_eq] at h
  exact absurd (number_eq (by decide) (by decide) h).2.1 (by decide)

theorem break_notMem_ofNat (n : Nat) : '\n' ∉ ofNat n :=
  fun hmem => absurd (isDigit_of_mem_ofNat _ hmem) (by decide)

theorem break_notMem_arrowLine (i j : Nat) : '\n' ∉ arrowLine i j := by
  rw [arrowLine_eq]
  simp [break_notMem_ofNat]

end Numbers

/-! ## Labels -/

/-- What a label shows: the last component of a path, or the whole path when that is
empty. -/
def caption (file : Text) : Text :=
  if Path.baseName file = [] then file else Path.baseName file

/-- The characters that have a meaning inside a label. -/
def marks : List Char := ['"', '[', ']', '\x7b', '\x7d', '<', '>']

theorem labelChar_notMem (c : Char) : labelChar c ∉ marks := by
  unfold labelChar
  repeat' split
  all_goals simp_all [marks]

theorem label_notMem {file : Text} : ∀ c ∈ label file, c ∉ marks := by
  intro c hc
  obtain ⟨d, -, rfl⟩ := List.mem_map.1 hc
  exact labelChar_notMem d

theorem labelChar_eq_break {c : Char} : labelChar c = '\n' ↔ c = '\n' := by
  refine ⟨fun h => ?_, by rintro rfl; decide⟩
  unfold labelChar at h
  split at h
  · exact absurd h (by decide)
  · split at h
    · exact absurd h (by decide)
    · split at h
      · exact absurd h (by decide)
      · exact h

theorem count_label (file : Text) :
    (label file).count '\n' = (caption file).count '\n' := by
  show ((caption file).map labelChar).count '\n' = _
  rw [List.count_eq_countP, List.countP_map, List.count_eq_countP]
  refine List.countP_congr fun c _ => ?_
  show (labelChar c == '\n') = true ↔ (c == '\n') = true
  rw [beq_iff_eq, beq_iff_eq, labelChar_eq_break]

theorem break_notMem_label {file : Text} : '\n' ∉ label file ↔ '\n' ∉ caption file := by
  rw [← List.count_eq_zero, count_label, List.count_eq_zero]

/-- Only the top has an empty last component. -/
theorem break_notMem_caption {file : Text} (hid : Path.IsId file)
    (h : '\n' ∉ Path.baseName file) : '\n' ∉ caption file := by
  unfold caption
  split
  · next hnil =>
      obtain ⟨lead, names, hl, hn, rfl⟩ := hid
      rcases List.eq_nil_or_concat names with rfl | ⟨init, last, rfl⟩
      · rcases hl with rfl | rfl <;> decide
      · rw [List.concat_eq_append] at hn hnil
        have hlast := hn last (by simp)
        rw [Path.baseName_spell_concat hl hlast.no_slash] at hnil
        exact absurd hnil hlast.ne_nil
  · exact h

/-! ## Arrows -/

section Arrows

variable {files : List Text} {source : Text} {i : Nat}

theorem indexOf?_eq (files : List Text) (target : Text) :
    indexOf? files target = if target ∈ files then some (files.idxOf target)
      else none := by
  unfold indexOf?
  induction files with
  | nil => rfl
  | cons file files ih =>
      rw [List.findIdx?_cons, List.idxOf_cons, ih]
      by_cases hfile : file = target
      · simp [hfile]
      · have hne : (file == target) = false := beq_eq_false_iff_ne.2 hfile
        rw [hne]
        by_cases htarget : target ∈ files
        · simp [htarget, hfile]
        · simp [htarget, hfile, Ne.symm hfile]

theorem getElem?_eq_some_iff_idxOf (h : files.Nodup) :
    files[i]? = some source ↔ source ∈ files ∧ files.idxOf source = i := by
  rw [List.getElem?_eq_some_iff]
  constructor
  · rintro ⟨hi, rfl⟩
    exact ⟨List.getElem_mem hi, h.idxOf_getElem i hi⟩
  · rintro ⟨hmem, rfl⟩
    exact ⟨List.idxOf_lt_length_of_mem hmem, List.getElem_idxOf _⟩

theorem mapIdx_eq_map_idxOf {α : Type} (f : Nat → Text → α) (h : files.Nodup) :
    files.mapIdx f = files.map fun file => f (files.idxOf file) file := by
  refine List.ext_getElem (by simp) fun i hi _ => ?_
  rw [List.getElem_mapIdx, List.getElem_map, h.idxOf_getElem]

/-- The arrows from a file are its edges to files that are shown. -/
theorem arrowLines_eq (g : Graph) (files : List Text) (source : Text) (i : Nat) :
    arrowLines g files source i =
      ((g.edgesOf source).filter (· ∈ files)).map fun target =>
        arrowLine i (files.idxOf target) := by
  show (g.edgesOf source).filterMap (fun target =>
    (indexOf? files target).map (arrowLine i)) = _
  induction g.edgesOf source with
  | nil => rfl
  | cons target targets ih =>
      rw [List.filterMap_cons, indexOf?_eq, ih]
      by_cases htarget : target ∈ files
      · rw [if_pos htarget, List.filter_cons_of_pos (by simpa using htarget)]
        rfl
      · rw [if_neg htarget, List.filter_cons_of_neg (by simpa using htarget)]
        rfl

theorem flatten_arrowLines (g : Graph) (h : files.Nodup) :
    (files.mapIdx fun i file => arrowLines g files file i).flatten =
      (g.edgesAmong files).map fun e =>
        arrowLine (files.idxOf e.1) (files.idxOf e.2) := by
  rw [mapIdx_eq_map_idxOf _ h, ← List.flatMap_def, Graph.edgesAmong, List.map_flatMap]
  refine List.flatMap_congr fun source _ => ?_
  rw [arrowLines_eq, List.map_map]
  rfl

end Arrows

/-! ## Lines -/

section Lines

variable {g : Graph} {style : DiagramStyle} {files shown : List Text}
  {named : Option (List Text)}

theorem mem_edgesAmong {source target : Text} :
    (source, target) ∈ g.edgesAmong files ↔
      source ∈ files ∧ target ∈ files ∧ target ∈ g.edgesOf source := by
  simp only [Graph.edgesAmong, List.mem_flatMap, List.mem_map, List.mem_filter,
    Prod.mk.injEq, decide_eq_true_eq]
  constructor
  · rintro ⟨file, hfile, t, ⟨hedge, ht⟩, rfl, rfl⟩
    exact ⟨hfile, ht, hedge⟩
  · rintro ⟨hsource, htarget, hedge⟩
    exact ⟨source, hsource, target, ⟨hedge, htarget⟩, rfl, rfl⟩

theorem nodup_edgesAmong (hfiles : files.Nodup)
    (hedges : ∀ file, (g.edgesOf file).Nodup) : (g.edgesAmong files).Nodup := by
  rw [Graph.edgesAmong, List.nodup_flatMap]
  refine ⟨fun file _ => ((hedges file).filter _).map fun a b h => (Prod.mk.inj h).2, ?_⟩
  refine hfiles.imp fun hne e ha hb => ?_
  obtain ⟨a, -, rfl⟩ := List.mem_map.1 ha
  obtain ⟨b, -, he⟩ := List.mem_map.1 hb
  exact hne (Prod.mk.inj he).1.symm

theorem nodup_selection (hkeys : (g.nodes.map (·.file)).Nodup) (style : DiagramStyle)
    (named : Option (List Text)) : (selection style g named).Nodup := by
  cases named with
  | some paths => exact nodup_distinct _
  | none => exact hkeys.sublist (List.take_sublist _ _)

/-- The lines of the arrows between files that are shown. -/
def drawn (g : Graph) (shown : List Text) : List Text :=
  (g.edgesAmong shown).map fun e => arrowLine (shown.idxOf e.1) (shown.idxOf e.2)

/-- The lines of a diagram by what is shown: a header, a declaration for each file and an
arrow for each edge, in a fence or in none. -/
def layout (g : Graph) (direction : Text) (fenced : Bool)
    (shown : List Text) : List Text :=
  (if fenced then ["```mermaid".toList] else []) ++ ["graph ".toList ++ direction] ++
    shown.mapIdx (fun i file => nodeLine file i) ++ drawn g shown ++
    (if fenced then ["```".toList] else [])

theorem lines_eq (h : (selection style g named).Nodup) :
    lines style g named =
      layout g style.direction style.fenced (selection style g named) := by
  rw [layout, drawn, ← flatten_arrowLines g h]
  rfl

theorem layout_eq (g : Graph) (direction : Text) (fenced : Bool) (shown : List Text) :
    layout g direction fenced shown =
      (if fenced then ["```mermaid".toList] else []) ++ ["graph ".toList ++ direction] ++
        shown.mapIdx (fun i file => nodeLine file i) ++ drawn g shown ++
        (if fenced then ["```".toList] else []) := rfl

theorem mem_layout {direction line : Text} {fenced : Bool} :
    line ∈ layout g direction fenced shown ↔
      (fenced = true ∧ line = "```mermaid".toList) ∨ line = "graph ".toList ++ direction ∨
        (∃ i file, shown[i]? = some file ∧ line = nodeLine file i) ∨
          line ∈ drawn g shown ∨
        (fenced = true ∧ line = "```".toList) := by
  have hfence {mark : Text} :
      line ∈ (if fenced then [mark] else []) ↔ fenced = true ∧ line = mark := by
    cases fenced <;> simp
  have hnode : line ∈ shown.mapIdx (fun i file => nodeLine file i) ↔
      ∃ i file, shown[i]? = some file ∧ line = nodeLine file i := by
    rw [List.mem_mapIdx]
    constructor
    · rintro ⟨i, hi, rfl⟩
      exact ⟨i, shown[i], List.getElem?_eq_getElem hi, rfl⟩
    · rintro ⟨i, file, hfile, rfl⟩
      obtain ⟨hi, rfl⟩ := List.getElem?_eq_some_iff.1 hfile
      exact ⟨i, hi, rfl⟩
  rw [layout_eq, List.mem_append, List.mem_append, List.mem_append, List.mem_append,
    hfence, hfence, List.mem_singleton, hnode, or_assoc, or_assoc, or_assoc]

theorem layout_ne_nil {direction : Text} {fenced : Bool} :
    layout g direction fenced shown ≠ [] :=
  List.ne_nil_of_mem (mem_layout.2 (.inr (.inl rfl)))

theorem split_render (h : (selection style g named).Nodup) :
    split '\n' (render style g named) =
      (layout g style.direction style.fenced (selection style g named)).flatMap
        (split '\n') := by
  rw [render, lines_eq h, split_join_flatMap layout_ne_nil]

variable {d : Direction} {fenced : Bool} {line : Text} {i j : Nat}

theorem mem_drawn : line ∈ drawn g shown ↔
    ∃ source target, source ∈ shown ∧ target ∈ shown ∧ target ∈ g.edgesOf source ∧
      line = arrowLine (shown.idxOf source) (shown.idxOf target) := by
  rw [drawn, List.mem_map]
  constructor
  · rintro ⟨⟨source, target⟩, he, rfl⟩
    obtain ⟨hsource, htarget, hedge⟩ := mem_edgesAmong.1 he
    exact ⟨source, target, hsource, htarget, hedge, rfl⟩
  · rintro ⟨source, target, hsource, htarget, hedge, rfl⟩
    exact ⟨(source, target), mem_edgesAmong.2 ⟨hsource, htarget, hedge⟩, rfl⟩

/-- No line but a declaration holds a break. -/
theorem break_notMem_or (h : line ∈ layout g d.code fenced shown) :
    '\n' ∉ line ∨ ∃ i file, shown[i]? = some file ∧ line = nodeLine file i := by
  rcases mem_layout.1 h with ⟨-, rfl⟩ | rfl | hnode | harrow | ⟨-, rfl⟩
  · exact .inl (by decide)
  · exact .inl (by cases d <;> decide)
  · exact .inr hnode
  · obtain ⟨source, target, -, -, -, rfl⟩ := mem_drawn.1 harrow
    exact .inl (break_notMem_arrowLine _ _)
  · exact .inl (by decide)

theorem break_notMem_nodeLine {file : Text} : '\n' ∉ nodeLine file i ↔
    '\n' ∉ caption file := by
  rw [← break_notMem_label]
  rw [nodeLine_eq]
  simp [break_notMem_ofNat]

/-- Arrows are drawn like no other lines. -/
theorem count_arrowLine_layout {direction : Text} :
    (layout g direction fenced shown).count (arrowLine i j) =
      (drawn g shown).count (arrowLine i j) := by
  have hother {line : Text} (hhead : line.head? ≠ some ' ') : arrowLine i j ≠ line :=
    fun h => hhead (h ▸ rfl)
  have hfence {mark : Text} (hhead : mark.head? ≠ some ' ') :
      (if fenced then [mark] else []).count (arrowLine i j) = 0 := by
    refine List.count_eq_zero.2 fun hmem => ?_
    cases fenced with
    | false => exact List.not_mem_nil hmem
    | true => exact hother hhead (List.mem_singleton.1 hmem)
  have hheader : ["graph ".toList ++ direction].count (arrowLine i j) = 0 :=
    List.count_eq_zero.2 fun hmem => hother (by simp) (List.mem_singleton.1 hmem)
  have hnode : (shown.mapIdx fun i file => nodeLine file i).count (arrowLine i j) =
      0 := by
    refine List.count_eq_zero.2 fun hmem => ?_
    obtain ⟨k, _, hk⟩ := List.mem_mapIdx.1 hmem
    exact arrowLine_ne_nodeLine _ hk.symm
  rw [layout_eq, List.count_append, List.count_append, List.count_append,
    List.count_append, hheader, hnode, hfence (by decide), hfence (by decide)]
  omega

/-! ## Numbers of lines -/

theorem length_flatMap_split (lines : List Text) :
    (lines.flatMap (split '\n')).length = lines.length + lines.flatten.count '\n' := by
  induction lines with
  | nil => rfl
  | cons line lines ih =>
      rw [List.flatMap_cons, List.length_append, length_split, ih, List.flatten_cons,
        List.count_append, List.length_cons]
      omega

theorem length_layout (g : Graph) (direction : Text) (fenced : Bool) (shown : List Text) :
    (layout g direction fenced shown).length =
      shown.length + (g.edgesAmong shown).length + 1 + if fenced then 2 else 0 := by
  rw [layout_eq, List.length_append, List.length_append, List.length_append,
    List.length_append, List.length_mapIdx, drawn, List.length_map, List.length_singleton]
  cases fenced <;> simp <;> omega

theorem count_flatten_mapIdx {line : Nat → Text → Text}
    (h : ∀ i file, (line i file).count '\n' = (caption file).count '\n') :
    (shown.mapIdx line).flatten.count '\n' = (shown.flatMap caption).count '\n' := by
  induction shown generalizing line with
  | nil => rfl
  | cons file shown ih =>
      rw [List.mapIdx_cons, List.flatten_cons, List.count_append, List.flatMap_cons,
        List.count_append, h, ih fun i => h (i + 1)]

theorem count_nodeLine (file : Text) (i : Nat) :
    (nodeLine file i).count '\n' = (caption file).count '\n' := by
  have hnumber : (ofNat i).count '\n' = 0 := List.count_eq_zero.2 (break_notMem_ofNat i)
  rw [nodeLine_eq]
  simp [hnumber, count_label]

/-- All breaks inside the lines of a diagram come from names of files. -/
theorem count_flatten_layout :
    (layout g d.code fenced shown).flatten.count '\n' =
      (shown.flatMap caption).count '\n' := by
  have hfence {mark : Text} (hmark : '\n' ∉ mark) :
      (if fenced then [mark] else []).flatten.count '\n' = 0 := by
    refine List.count_eq_zero.2 ?_
    cases fenced <;> simp [hmark]
  have hheader : ["graph ".toList ++ d.code].flatten.count '\n' = 0 := by
    cases d <;> decide
  have hdrawn : (drawn g shown).flatten.count '\n' = 0 := by
    refine List.count_eq_zero.2 fun hmem => ?_
    obtain ⟨line, hline, hbreak⟩ := List.mem_flatten.1 hmem
    obtain ⟨source, target, -, -, -, rfl⟩ := mem_drawn.1 hline
    exact break_notMem_arrowLine _ _ hbreak
  rw [layout_eq]
  simp only [List.flatten_append, List.count_append]
  rw [hfence (by decide), hfence (by decide), hheader, hdrawn,
    count_flatten_mapIdx fun i file => count_nodeLine file i]
  omega

end Lines

/-! ## What a diagram shows -/

/-- What is chosen to be shown: the files that are named, each once, or the first ones of
the graph. -/
def chosen (g : Graph) (limit : Nat) : Option (List Text) → List Text
  | some paths => (paths.map g.canonical).eraseDups
  | none => (g.nodes.map (·.file)).take limit

section Shown

variable {g : Graph} {named : Option (List Text)} {limit i j : Nat}

theorem selection_eq (g : Graph) (limit : Nat) (direction : Text) (fenced : Bool)
    (named : Option (List Text)) :
    selection ⟨limit, direction, fenced⟩ g named = chosen g limit named := by
  cases named with
  | some paths => exact distinct_eq_eraseDups _
  | none => rfl

theorem isId_of_mem_chosen (hids : ∀ node ∈ g.nodes, Path.IsId node.file) {file : Text}
    (h : file ∈ chosen g limit named) : Path.IsId file := by
  cases named with
  | some paths =>
      obtain ⟨path, -, rfl⟩ := List.mem_map.1 (List.mem_eraseDups.1 h)
      exact g.isId_canonical path
  | none =>
      obtain ⟨node, hnode, rfl⟩ := List.mem_map.1 (List.mem_of_mem_take h)
      exact hids node hnode

theorem arrowLine_mem_drawn {shown : List Text} (hkeys : (g.nodes.map (·.file)).Nodup)
    (hshown : shown.Nodup) :
    arrowLine i j ∈ drawn g shown ↔ ∃ source target,
      shown[i]? = some source ∧ shown[j]? = some target ∧ (source, target) ∈ g.edges := by
  rw [mem_drawn]
  simp only [getElem?_eq_some_iff_idxOf hshown, ← Graph.mem_edgesOf hkeys]
  constructor
  · rintro ⟨source, target, hsource, htarget, hedge, hline⟩
    obtain ⟨rfl, rfl⟩ := arrowLine_inj hline
    exact ⟨source, target, ⟨hsource, rfl⟩, ⟨htarget, rfl⟩, hedge⟩
  · rintro ⟨source, target, ⟨hsource, rfl⟩, ⟨htarget, rfl⟩, hedge⟩
    exact ⟨source, target, hsource, htarget, hedge, rfl⟩

theorem nodup_drawn {shown : List Text} (hshown : shown.Nodup)
    (hedges : ∀ file, (g.edgesOf file).Nodup) : (drawn g shown).Nodup := by
  refine (nodup_edgesAmong hshown hedges).map_on fun e he f hf hline => ?_
  obtain ⟨hsource, htarget, -⟩ := mem_edgesAmong.1 he
  obtain ⟨hsource', htarget', -⟩ := mem_edgesAmong.1 hf
  obtain ⟨hi, hj⟩ := arrowLine_inj hline
  exact Prod.ext ((List.idxOf_inj hsource).1 hi) ((List.idxOf_inj htarget).1 hj)

theorem nodup_edgesOf (h : ∀ node ∈ g.nodes, node.edges.Nodup) (file : Text) :
    (g.edgesOf file).Nodup := by
  rw [Graph.edgesOf]
  cases hnode : g.node? file with
  | none => exact List.nodup_nil
  | some node => exact h node (List.mem_of_find?_eq_some hnode)

end Shown

section Rendered

variable {w : Workspace} {root : Text} {settings : AnalyzerSettings} {paths : List Text}
  {r : BuildResult} {g : Graph}

/-- The lines of a diagram of a built graph are its layout, whatever is chosen to be
shown, when no name that is shown holds a break. So there is an arrow from one position to
another exactly when an edge leads from the file at the one to the file at the other, and
there is just one. -/
theorem lines_of_render (h : (Builder.forRoot w root settings).Runs paths r)
    (hg : r.graph = .ok g) (limit : Nat) (d : Direction) (fenced : Bool)
    (named : Option (List Text))
    (hbreak : ∀ file ∈ chosen g limit named, '\n' ∉ Path.baseName file) :
    let shown := chosen g limit named
    let lines := split '\n' (render ⟨limit, d.code, fenced⟩ g named)
    lines = layout g d.code fenced shown ∧ shown.Nodup ∧
      ∀ i j, lines.count (arrowLine i j) ≤ 1 ∧ (arrowLine i j ∈ lines ↔ ∃ source target,
        shown[i]? = some source ∧ shown[j]? = some target ∧ (source, target) ∈
          g.edges) := by
  intro shown lines
  have hkeys := h.nodup_files hg
  have hids : ∀ node ∈ g.nodes, Path.IsId node.file :=
    fun _ hnode => (h.canonical_of_mem_nodes hg hnode).file
  have hedges := nodup_edgesOf fun _ hnode =>
    (h.canonical_of_mem_nodes hg hnode).nodup_edges
  have hselected : selection ⟨limit, d.code, fenced⟩ g named = shown :=
    selection_eq g limit d.code fenced named
  have hshown : shown.Nodup := hselected ▸ nodup_selection hkeys _ named
  have hlines : lines = layout g d.code fenced shown := by
    have hwhole : ∀ line ∈ layout g d.code fenced shown, '\n' ∉ line := by
      intro line hline
      rcases break_notMem_or hline with hno | ⟨i, file, hfile, rfl⟩
      · exact hno
      · have hmem : file ∈ shown := List.mem_of_getElem? hfile
        have hid := isId_of_mem_chosen hids hmem
        exact break_notMem_nodeLine.2 (break_notMem_caption hid (hbreak file hmem))
    show split '\n' (render ⟨limit, d.code, fenced⟩ g named) = _
    rw [render, lines_eq (hselected ▸ hshown), hselected]
    exact split_join layout_ne_nil hwhole
  refine ⟨hlines, hshown, fun i j => ?_⟩
  have hcount : lines.count (arrowLine i j) = (drawn g shown).count (arrowLine i j) := by
    rw [hlines, count_arrowLine_layout]
  refine ⟨?_, ?_⟩
  · rw [hcount]
    exact List.nodup_iff_count_le_one.1 (nodup_drawn hshown hedges) _
  · rw [← List.count_pos_iff, hcount, List.count_pos_iff,
      arrowLine_mem_drawn hkeys hshown]

/-- Files of a project in several spellings, and one that is not there. -/
def spellings : List Text :=
  ["a.py".toList, "./b.py".toList, "x/../a.py".toList, "gone.py".toList]

theorem lines_of_twoFiles :
    ∃ r g, (Builder.forRoot twoFiles ['.'] {}).Runs ["b.py".toList, "./a.py".toList] r ∧
      r.graph = .ok g ∧
      split '\n' (render ⟨20, Direction.leftRight.code, true⟩ g (some spellings)) =
        ["```mermaid".toList, "graph LR".toList, "  N0[\"a.py\"]".toList,
          "  N1[\"b.py\"]".toList, "  N2[\"gone.py\"]".toList, "  N0 --> N1".toList,
            "  N0 --> N0".toList, "  N1 --> N0".toList,
          "```".toList] := by
  obtain ⟨g, hg, hview⟩ : ∃ g,
      ((Builder.forRoot twoFiles ['.'] {}).build ["b.py".toList, "./a.py".toList]).graph =
        .ok g ∧
      (chosen g 20 (some spellings),
          layout g Direction.leftRight.code true (chosen g 20 (some spellings))) =
        (["/p/a.py".toList, "/p/b.py".toList, "/p/gone.py".toList],
          ["```mermaid".toList, "graph LR".toList, "  N0[\"a.py\"]".toList,
            "  N1[\"b.py\"]".toList, "  N2[\"gone.py\"]".toList, "  N0 --> N1".toList,
            "  N0 --> N0".toList, "  N1 --> N0".toList, "```".toList]) := by
    refine ok_of_map_eq_ok (g := fun g => (chosen g 20 (some spellings),
      layout g Direction.leftRight.code true (chosen g 20 (some spellings)))) ?_
    decide +kernel
  obtain ⟨hshown, hlayout⟩ := Prod.mk.inj hview
  have hbreak : ∀ file ∈ chosen g 20 (some spellings), '\n' ∉ Path.baseName file := by
    rw [hshown]
    decide
  refine ⟨_, g, .alone, hg, ?_⟩
  exact (lines_of_render .alone hg 20 .leftRight true (some spellings) hbreak).1.trans
    hlayout

end Rendered

/-! ## Names with breaks -/

section Counted

variable {g : Graph}

/-- A diagram has a line for each file that is shown, one for each edge between them, a
header and two for a fence, and as many more as there are breaks in the names: breaks are
the only thing in a name that changes the lines. A declaration is one line just when the
name has none; marks never get into a label. -/
theorem lineCount_of_render (hkeys : (g.nodes.map (·.file)).Nodup) (limit : Int)
    (d : Direction) (fenced : Bool) (named : Option (List Text)) :
    let shown := selection ⟨limit, d.code, fenced⟩ g named
    let lines := split '\n' (render ⟨limit, d.code, fenced⟩ g named)
    let plain := shown.length + (g.edgesAmong shown).length + 1 + if fenced then 2 else 0
    shown.Nodup ∧ lines.length = plain + (shown.flatMap caption).count '\n' ∧
      (lines.length = plain ↔ ∀ file ∈ shown, '\n' ∉ caption file) ∧
      ∀ i file, shown[i]? = some file →
        (nodeLine file i ∈ lines ↔ '\n' ∉ caption file) ∧ ∀ c ∈ label file,
        c ∉ marks := by
  intro shown lines plain
  have hshown : shown.Nodup := nodup_selection hkeys _ named
  have hlines : lines = (layout g d.code fenced shown).flatMap (split '\n') :=
    split_render hshown
  have hcount : lines.length = plain + (shown.flatMap caption).count '\n' := by
    rw [hlines, length_flatMap_split, length_layout, count_flatten_layout]
  refine ⟨hshown, hcount, ?_, fun i file hfile => ⟨?_, label_notMem⟩⟩
  · rw [hcount, Nat.add_eq_left, List.count_eq_zero, List.mem_flatMap]
    simp only [not_exists, not_and]
  · rw [← break_notMem_nodeLine, hlines, List.mem_flatMap]
    constructor
    · rintro ⟨line, -, hpiece⟩
      exact notMem_of_mem_split hpiece
    · intro hno
      refine ⟨nodeLine file i,
        mem_layout.2 (.inr (.inr (.inl ⟨i, file, hfile, rfl⟩))), ?_⟩
      rw [split_of_notMem hno]
      exact List.mem_singleton_self _

end Counted

/-- Two files with odd names, one of which depends on the other. -/
def oddNames : Graph :=
  (({ root := "/p".toList } : Graph).put "a\nb.ts" ["\"c\"[1].ts"]).put "\"c\"[1].ts" []

theorem lineCount_of_oddNames :
    (oddNames.nodes.map (·.file)).Nodup ∧
      (split '\n' (render ⟨20, Direction.topDown.code, false⟩ oddNames none)).length =
        2 + 1 + 1 + 0 + 1 ∧
      label "/p/\"c\"[1].ts".toList = "'c'(1).ts".toList := by
  have hkeys : (oddNames.nodes.map (·.file)).Nodup := by decide
  refine ⟨hkeys, ?_, by decide⟩
  rw [(lineCount_of_render hkeys 20 .topDown false none).2.1]
  decide

/-- A name with a break in it adds a line to a diagram that is made of nothing else. -/
theorem broken_line_of_render :
    let g : Graph := ({ root := "/p".toList } : Graph).put "a\nb.ts" []
    let shown := selection ⟨20, Direction.topDown.code, false⟩ g none
    let lines := split '\n' (render ⟨20, Direction.topDown.code, false⟩ g none)
    shown = ["/p/a\nb.ts".toList] ∧
      lines = ["graph TD".toList, "  N0[\"a".toList, "b.ts\"]".toList] ∧
      lines.length ≠ shown.length + (g.edgesAmong shown).length + 1 := by
  decide

end Diagram

end ImpactGraph
