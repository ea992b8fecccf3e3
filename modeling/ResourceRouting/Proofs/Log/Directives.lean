import ResourceRouting.Log.Logger
import ResourceRouting.Proofs.Lists
import ResourceRouting.Proofs.Results

/-!
# Directives — what settings keep of the texts of directives

A text of directives is cut at its commas, so it does not matter how directives are spread over
texts. What is kept is trimmed and never blank, and the first directive that cannot be read is the
one that a filter fails for.

* `LoggerSettings.foldl_directive_eq`: texts one after the other add what they add with commas
  between them.
* `LoggerSettings.kept_of_clauses`: which texts can be kept as directives.
* `buildFilter_eq_error_iff`: the one directive that a filter fails for.
-/

namespace ResourceRouting
namespace Log

namespace LoggerSettings

/-! ## Texts of directives -/

/-- A separator between texts ends a directive as one within a text does. -/
theorem splitDirectives_commaList (texts : List String) :
    splitDirectives (Text.commaList texts) = texts.flatMap splitDirectives := by
  by_cases hne : texts = []
  · -- no text at all is as good as an empty one
    subst hne
    decide
  · unfold splitDirectives
    rw [Text.commaList, Text.cut_glue_flatMap ',' hne, List.map_flatMap, List.filter_flatMap]

theorem foldl_directive (s : LoggerSettings) (texts : List String) :
    texts.foldl directive s =
      { s with directives := s.directives ++ texts.flatMap splitDirectives } := by
  induction texts generalizing s with
  | nil =>
      simp
  | cons text rest ih =>
      rw [List.foldl_cons, ih, List.flatMap_cons, ← List.append_assoc]
      rfl

theorem foldl_directive_eq (s : LoggerSettings) (texts : List String) :
    texts.foldl directive s = s.directive (Text.commaList texts) := by
  rw [foldl_directive, directive, splitDirectives_commaList]

theorem foldl_extended_directives (s : LoggerSettings) (texts : List String) :
    (texts.map LoggerClause.directive).foldl extended s = texts.foldl directive s := by
  rw [List.foldl_map]
  rfl

/-- Clauses for directives that stand next to each other can be put together. -/
theorem ofClauses_directives (before after : List LoggerClause) (texts : List String) :
    ofClauses (before ++ texts.map .directive ++ after) =
      ofClauses (before ++ .directive (Text.commaList texts) :: after) := by
  calc ofClauses (before ++ texts.map .directive ++ after)
      = after.foldl extended (texts.foldl directive (ofClauses before)) := by
        simp only [ofClauses, List.foldl_append, foldl_extended_directives]
    _ = after.foldl extended ((ofClauses before).directive (Text.commaList texts)) := by
        rw [foldl_directive_eq]
    _ = ofClauses (before ++ .directive (Text.commaList texts) :: after) := by
        simp only [ofClauses, List.foldl_append, List.foldl_cons]
        rfl

/-! ## Kept directives -/

/-- A text that can be kept as a directive. -/
structure Kept (d : String) : Prop where
  trimmed : Text.trim d = d
  ne_empty : d ≠ ""
  comma_not_mem : ',' ∉ d.toList

theorem kept_of_split {text d : String} (h : d ∈ splitDirectives text) : Kept d := by
  rcases List.mem_filter.1 h with ⟨hd, hne⟩
  rcases List.mem_map.1 hd with ⟨piece, hpiece, rfl⟩
  refine ⟨Text.trim_trim piece, ?_, ?_⟩
  · rintro hempty
    simp [hempty] at hne
  · intro hcomma
    exact Text.not_mem_of_mem_cut hpiece (Text.mem_of_mem_trim hcomma)

theorem kept_of_extended {s : LoggerSettings} (h : ∀ d ∈ s.directives, Kept d)
    (clause : LoggerClause) : ∀ d ∈ (s.extended clause).directives, Kept d := by
  cases clause with
  | directive text =>
      intro d hd
      rcases List.mem_append.1 hd with hd | hd
      · exact h d hd
      · exact kept_of_split hd
  | level level => exact h
  | console format => exact h
  | withoutConsole => exact h
  | file output => exact h

theorem kept_of_clauses (clauses : List LoggerClause) :
    ∀ d ∈ (ofClauses clauses).directives, Kept d := by
  -- by the clauses, the last one first
  induction clauses using List.reverseRecOn with
  | nil =>
      intro d hd
      cases hd
  | append_singleton clauses clause ih =>
      rw [ofClauses, List.foldl_concat]
      exact kept_of_extended ih clause

end LoggerSettings

/-! ## Filters -/

/-- Whether a text is read as a directive. -/
def Directive.Reads (d : String) : Prop := ∃ directive, Directive.parse d = .ok directive

/-- The error for a directive that cannot be read. -/
def malformedError (d : String) (reason : DirectiveError) : LoggerError :=
  ⟨.invalidConfiguration, s!"Invalid filter directive '{d}': {reason.text}", none⟩

/-- Reads a directive of the settings. -/
def readDirective (d : String) : Except LoggerError Directive :=
  (Directive.parse d).mapError (malformedError d)

theorem readDirective_eq_ok_iff {d : String} {directive : Directive} :
    readDirective d = .ok directive ↔ Directive.parse d = .ok directive := by
  unfold readDirective
  cases Directive.parse d with
  | ok found => simp [Except.mapError]
  | error reason => simp [Except.mapError]

theorem readDirective_eq_error_iff {d : String} {error : LoggerError} :
    readDirective d = .error error ↔
      ∃ reason, Directive.parse d = .error reason ∧ error = malformedError d reason := by
  unfold readDirective
  cases Directive.parse d with
  | ok found => simp [Except.mapError]
  | error reason => simp [Except.mapError, eq_comm]

/-- All directives are read before any is added. -/
theorem buildFilter_eq (environment : String) (s : LoggerSettings) :
    buildFilter environment s =
      (s.directives.mapM readDirective).map
        fun read => read.foldl Filter.add (Filter.ofText s.level environment) := by
  -- what the filter holds already has no part in how a directive is read
  rw [← foldlM_eq_map_mapM, buildFilter]
  refine congrArg (fun step => s.directives.foldlM step (Filter.ofText s.level environment)) ?_
  funext filter d
  unfold readDirective
  cases Directive.parse d with
  | ok directive => rfl
  | error reason => rfl

theorem buildFilter_isOk_iff {environment : String} {s : LoggerSettings} :
    (∃ filter, buildFilter environment s = .ok filter) ↔
      ∀ d ∈ s.directives, Directive.Reads d := by
  have hread : (∃ read, s.directives.mapM readDirective = .ok read) ↔
      ∀ d ∈ s.directives, Directive.Reads d := by
    simp only [exists_mapM_eq_ok_iff, readDirective_eq_ok_iff, Directive.Reads]
  rw [buildFilter_eq, ← hread]
  cases s.directives.mapM readDirective with
  | ok read => simp [Except.map]
  | error error => simp [Except.map]

/-- A filter fails for the first directive that cannot be read. -/
theorem buildFilter_eq_error_iff {environment : String} {s : LoggerSettings}
    {error : LoggerError} :
    buildFilter environment s = .error error ↔
      ∃ d reason, IsFirst (fun d => ¬ Directive.Reads d) s.directives d ∧
        Directive.parse d = .error reason ∧ error = malformedError d reason := by
  have hread : buildFilter environment s = .error error ↔
      s.directives.mapM readDirective = .error error := by
    rw [buildFilter_eq]
    cases s.directives.mapM readDirective with
    | ok read => simp [Except.map]
    | error error => simp [Except.map]
  rw [hread, mapM_eq_error_iff]
  simp only [readDirective_eq_ok_iff, readDirective_eq_error_iff]
  constructor
  · rintro ⟨before, d, after, hsplit, hbefore, reason, hreason, rfl⟩
    refine ⟨d, reason, ⟨before, after, hsplit, ?_, ?_⟩, hreason, rfl⟩
    · rintro ⟨directive, hdirective⟩
      cases hreason.symm.trans hdirective
    · intro b hb hnot
      exact hnot (hbefore b hb)
  · rintro ⟨d, reason, ⟨before, after, hsplit, -, hbefore⟩, hreason, rfl⟩
    exact ⟨before, d, after, hsplit, fun b hb => not_not.1 (hbefore b hb), reason, hreason, rfl⟩

/-! ## Spread of directives -/

/-- It does not matter how directives are spread over clauses. Whatever else is declared before and
after, clauses for texts that stand next to each other make the settings that one clause makes for
the texts with commas between them, and so the same comes of initialising a logger. Of any clauses
only trimmed texts are kept that are neither empty nor hold a comma. A filter is built if and only
if every directive can be read; otherwise the first one that cannot is named in the error. -/
theorem directives_regrouped (before after : List LoggerClause) (texts : List String) :
    let apart := LoggerSettings.ofClauses (before ++ texts.map .directive ++ after)
    let joined := LoggerSettings.ofClauses (before ++ .directive (Text.commaList texts) :: after)
    apart.directives = joined.directives ∧
    (∀ around name, apart.init around name = joined.init around name) ∧
    (∀ clauses, ∀ d ∈ (LoggerSettings.ofClauses clauses).directives,
      Text.trim d = d ∧ d ≠ "" ∧ ',' ∉ d.toList) ∧
    ∀ environment s,
      ((∃ filter, buildFilter environment s = .ok filter) ↔
        ∀ d ∈ s.directives, ∃ directive, Directive.parse d = .ok directive) ∧
      ∀ error, buildFilter environment s = .error error ↔
        ∃ d reason,
          IsFirst (fun d => ¬ ∃ directive, Directive.parse d = .ok directive) s.directives d ∧
          Directive.parse d = .error reason ∧
          error =
            ⟨.invalidConfiguration, s!"Invalid filter directive '{d}': {reason.text}", none⟩ := by
  have hsame := LoggerSettings.ofClauses_directives before after texts
  refine ⟨congrArg _ hsame, fun around name => by rw [hsame], fun clauses d hd => ?_,
    fun environment s => ⟨buildFilter_isOk_iff, fun error => buildFilter_eq_error_iff⟩⟩
  have hkept := LoggerSettings.kept_of_clauses clauses d hd
  exact ⟨hkept.trimmed, hkept.ne_empty, hkept.comma_not_mem⟩

example : (LoggerSettings.ofClauses [.directive "kernel=debug, http=info,"]).directives =
    ["kernel=debug", "http=info"] := by
  decide +kernel

end Log
end ResourceRouting
