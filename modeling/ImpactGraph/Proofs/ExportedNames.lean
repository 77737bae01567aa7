import ImpactGraph.Proofs.CallSites
import ImpactGraph.Proofs.PatternTakes
import ImpactGraph.Proofs.RecordedFindings

/-!
# Exported names

Names are exported by lists in braces, and by forms that give one name each: a
declaration, a module as a whole, a default. An entry of a list has to have the
form of an identifier, whatever stands between the braces, so it never begins
with a digit. It may be a reserved word, and `default` is let through on its own
account. Of the other forms the pattern asks for characters of names and for no
more.
-/

namespace ImpactGraph.Rules.JavaScript

open Text Pattern

/-- Words that cannot be the name of a binding. -/
def reservedWords : List Text :=
  ["await", "break", "case", "catch", "class", "const", "continue", "debugger", "default",
    "delete", "do", "else", "enum", "export", "extends", "false", "finally", "for",
    "function", "if", "import", "in", "instanceof", "new", "null", "return", "super",
    "switch", "this", "throw", "true", "try", "typeof", "var", "void", "while", "with",
    "yield"].map String.toList

/-- A name that a binding can have: no digit begins it, and it is not reserved. -/
def IsBindingName (name : Text) : Prop := (∀ c ∈ name.head?, c.isDigit = false) ∧
    name ∉ reservedWords

instance (name : Text) : Decidable (IsBindingName name) :=
  inferInstanceAs (Decidable (_ ∧ _))

/-- A list in braces exports the name, be it of this module's bindings or of another
module's exports. -/
inductive IsListed (content : Text) : Text → Prop
  | others {m : Match} {s : Specifier} (hm : m ∈ reexport.findAll content)
      (hbraced : startsWith (m.part .clause) ['{'] = true)
      (hs : s ∈ specifiers (trimWhile (fun c => c = '{' || c = '}') (m.part .clause))) :
      IsListed content s.imported
  | own {m : Match} {s : Specifier} (hm : m ∈ exportList.findAll content)
      (hs : s ∈ specifiers (m.part .clause)) : IsListed content s.imported

/-- The name is the one that a declaration, another module as a whole or a default is
exported by. -/
inductive IsNamed (content : Text) : Text → Prop
  | whole {m : Match} {name : Text} (hm : m ∈ reexport.findAll content)
      (hbraced : startsWith (m.part .clause) ['{'] = false) (hname :
        m.part? .renamed = some name) :
      IsNamed content name
  | declared {m : Match} (hm : m ∈ exportDeclaration.findAll content) :
      IsNamed content (m.part .name)
  | default {m : Match} (hm : m ∈ exportDefault.findAll content) (hword : m.part .name ∉
      declarationWords) :
      IsNamed content (m.part .name)

section Names

variable {content name entry block clause : Text} {site : Site} {typeOnly : Bool}
  {s : Specifier} {binding renamed : Option Text}

/-! ## Lists in braces -/

theorem isSymbol_of_isIdentifier (h : isIdentifier (strip entry) = true) :
    IsSymbol (strip entry) := by
  have hlast : (strip entry).getLast? ≠ some '\n' := fun hlast =>
    absurd (last_strip entry '\n' hlast) (by decide)
  obtain ⟨c, rest, heq, hc, hparts⟩ := exists_of_isIdentifier_of_last h hlast
  exact ⟨c, rest, heq, hc, fun x hx => hparts x (List.mem_cons_of_mem c hx)⟩

theorem isSymbol_default : IsSymbol "default".toList :=
  ⟨'d', "efault".toList, rfl, by decide, by decide⟩

theorem Specifier.isSymbol_of_ofText? (h : Specifier.ofText? entry = some s) :
    IsSymbol s.imported := by
  unfold Specifier.ofText? at h
  simp only [Option.ite_none_right_eq_some, Bool.or_eq_true, decide_eq_true_eq,
    Option.some.injEq] at h
  obtain ⟨himported | himported, rfl⟩ := h
  · exact isSymbol_of_isIdentifier himported
  · rw [himported]
    exact isSymbol_default

theorem isSymbol_of_mem_specifiers (h : s ∈ specifiers block) : IsSymbol s.imported := by
  obtain ⟨entry, -, hentry⟩ := List.mem_filterMap.1 h
  exact Specifier.isSymbol_of_ofText? hentry

theorem IsListed.isSymbol (h : IsListed content name) : IsSymbol name := by
  cases h with
  | others hm hbraced hs => exact isSymbol_of_mem_specifiers hs
  | own hm hs => exact isSymbol_of_mem_specifiers hs

theorem isDigit_of_isIdentifierStart {c : Char} (h : isIdentifierStart c = true) :
    c.isDigit = false := by
  refine Bool.eq_false_iff.2 fun hdigit => ?_
  simp only [isIdentifierStart, Char.isDigit, Bool.or_eq_true, Bool.and_eq_true,
    decide_eq_true_eq, Char.le_def, UInt32.le_iff_toNat_le, ge_iff_le] at h hdigit
  rcases h with ((⟨h, -⟩ | ⟨h, -⟩) | rfl) | rfl
  · exact absurd (Nat.le_trans h hdigit.2) (by decide)
  · exact absurd (Nat.le_trans h hdigit.2) (by decide)
  · exact absurd hdigit (by decide)
  · exact absurd hdigit (by decide)

theorem isBindingName_iff (h : IsSymbol name) :
    IsBindingName name ↔ name ∉ reservedWords := by
  refine and_iff_right fun c hc => ?_
  obtain ⟨x, rest, rfl, hx, -⟩ := h
  obtain rfl : x = c := Option.some.inj hc
  exact isDigit_of_isIdentifierStart hx

/-! ## Names on their own -/

theorem keeps_identifier {slot : Slot} {Q : Text → Prop} :
    identifier.Keeps slot Q := keeps_many1 _

theorem IsNamed.takes (h : IsNamed content name) : identifier.Takes name := by
  cases h with
  | whole hm hbraced hname =>
      refine of_part?_eq_some (p := reexport) ?_ hm hname
      simp [reexport, typeMark, specifier, braced, space, gap, Keeps, keeps_identifier]
  | declared hm =>
      refine of_part (p := exportDeclaration) ?_ ?_ hm
      · simp [exportDeclaration, anyWord, anyOf, space, gap, Keeps, keeps_identifier]
      · exact .inr (.inl rfl)
  | default hm hword =>
      refine of_part (p := exportDefault) ?_ ?_ hm
      · simp [exportDefault, space, gap, Keeps, keeps_identifier]
      · exact .inl (.inl (.inr (.inl rfl)))

/-! ## The findings that export -/

theorem bring_ne_exports {symbol : Text} {kind : ImportKind} :
    site.bring symbol kind renamed ≠ Finding.exports name :=
  fun h => Finding.noConfusion h

theorem exports_notMem_headBindings :
    Finding.exports name ∉ headBindings site typeOnly clause := by
  unfold headBindings
  split
  · simp only
    split <;> simp [bring_ne_exports.symm]
  · split
    · exact List.not_mem_nil
    · simp only [List.mem_append, not_or]
      refine ⟨?_, ?_⟩
      · split <;> simp [bring_ne_exports.symm]
      · split <;> simp [bring_ne_exports.symm]

theorem exports_notMem_importFindings :
    Finding.exports name ∉ importFindings site typeOnly clause := by
  have hbindings : Finding.exports name ∉ clauseBindings site typeOnly clause := by
    simp [clauseBindings, exports_notMem_headBindings, bring_ne_exports]
  unfold importFindings
  split
  · exact List.not_mem_nil
  · simp only
    split
    · simp [hbindings]
    · exact List.not_mem_nil

theorem exports_notMem_requireFindings :
    Finding.exports name ∉ requireFindings site binding := by
  cases binding with
  | none => simp [requireFindings]
  | some binding =>
      simp only [requireFindings, List.mem_append, not_or]
      refine ⟨?_, by simp⟩
      split
      · simp [bring_ne_exports]
      · simp [bring_ne_exports.symm]

theorem exports_mem_reexportFindings_iff :
    Finding.exports name ∈ reexportFindings site typeOnly clause renamed ↔
      if startsWith clause ['{'] then
        ∃ s ∈ specifiers (trimWhile (fun c => c = '{' || c = '}') clause),
          s.imported = name
      else renamed = some name := by
  unfold reexportFindings
  split
  · simp only [List.mem_append, List.mem_flatMap, List.mem_cons, List.not_mem_nil,
      bring_ne_exports.symm, Finding.exports.injEq, reduceCtorEq, or_false, false_or]
    exact exists_congr fun s => and_congr_right fun _ => eq_comm
  · cases renamed with
    | none => simp
    | some renamed =>
        simp only [List.mem_append, List.mem_cons, List.not_mem_nil,
          bring_ne_exports.symm, Finding.exports.injEq, reduceCtorEq, or_false, false_or,
          Option.some.injEq]
        exact eq_comm

theorem exports_mem_findings_iff {w : Workspace} {root file : Text} :
    Finding.exports name ∈ findings w root file content ↔ IsListed content name ∨
      IsNamed content name := by
  simp only [findings, List.mem_append, List.mem_flatMap, List.mem_map,
    exports_notMem_importFindings, exports_notMem_requireFindings,
    exports_mem_reexportFindings_iff, reduceCtorEq, and_false, exists_false,
    false_or, Finding.exports.injEq]
  constructor
  · rintro (((⟨m, hm, h⟩ | ⟨m, hm, rfl⟩) | ⟨m, hm, s, hs, rfl⟩) | ⟨m, hm, h⟩)
    · split at h
      · next hbraced =>
          obtain ⟨s, hs, rfl⟩ := h
          exact .inl (.others hm hbraced hs)
      · next hbraced => exact .inr (.whole hm (Bool.eq_false_iff.2 hbraced) h)
    · exact .inr (.declared hm)
    · exact .inl (.own hm hs)
    · split at h
      · exact absurd h List.not_mem_nil
      · next hword =>
          obtain rfl := Finding.exports.inj (List.mem_singleton.1 h)
          exact .inr (.default hm hword)
  · rintro (h | h)
    · cases h with
      | others hm hbraced hs =>
          exact .inl (.inl (.inl ⟨_, hm, by rw [if_pos hbraced]; exact ⟨_, hs, rfl⟩⟩))
      | own hm hs => exact .inl (.inr ⟨_, hm, _, hs, rfl⟩)
    · cases h with
      | whole hm hbraced hname =>
          exact .inl (.inl (.inl
            ⟨_, hm, by rw [if_neg (Bool.eq_false_iff.1 hbraced)]; exact hname⟩))
      | declared hm => exact .inl (.inl (.inr ⟨_, hm, rfl⟩))
      | default hm hword =>
          exact .inr ⟨_, hm, by rw [if_neg hword]; exact List.mem_singleton_self _⟩

theorem mem_exports_iff {w : Workspace} {root file : Text} {language : Language} :
    name ∈ (FileFacts.ofFindings file language (findings w root file content)).exports ↔
      IsListed content name ∨ IsNamed content name := by
  rw [FileFacts.ofFindings_eq]
  show name ∈ Text.distinct _ ↔ _
  rw [mem_distinct, List.mem_filter, Finding.mem_exports, exports_mem_findings_iff]
  refine and_iff_left_of_imp fun h => ?_
  have hne : name ≠ [] := by
    rcases h with h | h
    · exact h.isSymbol.ne_nil
    · exact (takes_many1.1 h.takes).1
  simpa using hne

theorem exists_extract {e : Extractor} {file : Text} {language : Language}
    (hfile : Language.ofPath? file = some language)
    (hlanguage : language ∈ [.typescript, .javascript]) (content : Text) :
    ∃ facts, e.extract file content = .ok facts ∧ ∀ name, name ∈ facts.exports ↔
      IsListed content name ∨ IsNamed content name := by
  have hfound : ImpactGraph.findings e.workspace e.root file content language =
      .ok (findings e.workspace e.root file content) := by
    simp only [List.mem_cons, List.not_mem_nil, or_false] at hlanguage
    rcases hlanguage with rfl | rfl
    · rfl
    · rfl
  exact ⟨_, Extractor.extract_of_findings hfile hfound, fun name => mem_exports_iff⟩

/-- A script exports names of its lists in braces and of its other exports. All of the
first are exported; they have the form of an identifier, and can be the names of bindings
as far as they are not reserved. The others are runs of characters of names, and those
that can be the names of bindings are exported. -/
theorem exported_names_of_extract {e : Extractor} {file : Text} {language : Language}
    (hfile : Language.ofPath? file = some language)
    (hlanguage : language ∈ [.typescript, .javascript]) (content : Text) :
    ∃ facts, e.extract file content = .ok facts ∧
      (∀ name ∈ facts.exports, IsListed content name ∨ IsNamed content name) ∧
      (∀ name, IsListed content name → name ∈ facts.exports ∧ IsSymbol name ∧
        (IsBindingName name ↔ name ∉ reservedWords)) ∧
      ∀ name, IsNamed content name → name ≠ [] ∧ (∀ c ∈ name, isNameChar c = true) ∧
        (IsBindingName name → name ∈ facts.exports) := by
  obtain ⟨facts, hfacts, hexports⟩ :=
    @exists_extract e file language hfile hlanguage content
  refine ⟨facts, hfacts, fun name => (hexports name).1, fun name h =>
    ⟨?_, h.isSymbol, ?_⟩, fun name h => ?_⟩
  · exact (hexports name).2 (.inl h)
  · exact isBindingName_iff h.isSymbol
  · obtain ⟨hne, hparts⟩ := takes_many1.1 h.takes
    exact ⟨hne, hparts, fun _ => (hexports name).2 (.inr h)⟩

end Names

/-- A project with one script. -/
def innerScript : Workspace where
  cwd := "/p".toList
  tree := .directory [("p".toList, .directory [("inner.ts".toList, .file [])])]

theorem exported_names_of_barrel :
    let content :=
  "export { a, type b as c } from './inner';\nexport async function* f() {}\n".toList
    ∃ facts, (Extractor.mk innerScript "/p".toList false).extract "/p/a.ts".toList
      content = .ok facts ∧
      facts.exports = ["a".toList, "b".toList, "f".toList] ∧
      (∀ name ∈ facts.exports, IsListed content name ∨ IsNamed content name) ∧
      ∀ name, IsListed content name → name ∈ facts.exports ∧ IsSymbol name := by
  intro content
  obtain ⟨facts, hfacts, hexports, hlisted, -⟩ :=
    @exported_names_of_extract (Extractor.mk innerScript "/p".toList false)
      "/p/a.ts".toList .typescript
      (by decide +kernel) (by decide) content
  have hfound :
      ((Extractor.mk innerScript "/p".toList false).extract
        "/p/a.ts".toList content).toOption.map
        (·.exports) = some ["a".toList, "b".toList, "f".toList] := by
    decide +kernel
  rw [hfacts] at hfound
  exact ⟨facts, hfacts, Option.some.inj hfound, hexports, fun name h =>
    ⟨(hlisted name h).1, (hlisted name h).2.1⟩⟩

/-- The default of another module is exported as such; behind `const enum` and `export
default` is taken for a name what is none. -/
theorem reserved_names_exported :
    let exports (text : String) :=
      ((Extractor.mk innerScript "/p".toList false).extract
        "/p/a.ts".toList text.toList).toOption.map (·.exports)
    (exports "export { default } from './inner';" = some ["default".toList] ∧
      ¬ IsBindingName "default".toList) ∧
      (exports "export const enum Color { Red }" = some ["enum".toList] ∧
        ¬ IsBindingName "enum".toList) ∧
      exports "export default 42;" = some ["42".toList] ∧
        ¬ IsBindingName "42".toList := by
  decide +kernel

end ImpactGraph.Rules.JavaScript
