import Clippings.Proofs.Template.UnknownFilters

namespace Clippings

def isUnknownFilterMessage (message : Text) : Bool := (unknownFilterName? message).isSome

theorem Finding.isUnknownFilterMessage_message (finding : Finding) :
    isUnknownFilterMessage finding.message = finding.unknownName?.isSome := by
  rw [isUnknownFilterMessage, unknownFilterName?_message]

namespace Validation

theorem isError_standard (finding : Finding) : isError .standard finding = false := by
  cases finding <;> rfl

theorem isError_strict (finding : Finding) :
    isError .strict finding = isUnknownFilterMessage finding.message := by
  rw [finding.isUnknownFilterMessage_message]
  cases finding <;> rfl

theorem isUnknownFilterMessage_of_mem_checkVariables {known : Option (List Text)}
    {variableNames : List Text} {finding : Finding}
    (h : finding ∈ checkVariables known variableNames) :
    isUnknownFilterMessage finding.message = false := by
  have hname : finding.unknownName? = none :=
    List.filterMap_eq_nil_iff.mp (filterMap_checkVariables known variableNames) finding h
  rw [finding.isUnknownFilterMessage_message, hname]
  rfl

end Validation

namespace Engine

theorem validate_fst_congr {engine other : Engine} (h : engine.dialect = other.dialect)
    (expectations : Expectations) (template : Option Text) :
    (engine.validate expectations template).1 = (other.validate expectations template).1 := by
  match template with
  | none | some [] => rfl
  | some (c :: rest) => exact validateText_fst_congr h expectations (c :: rest)

theorem errors_validateText_standard (known : Option (List Text)) (limit : Option Int)
    (template : Text) (engine : Engine) :
    (engine.validateText { strictness := .standard, known, limit } template).1.errors =
      Validation.checkLength limit template ++ Validation.checkDelimiters template := by
  rw [errors_validateText (by simp)]
  simp [Validation.isError_standard]

theorem warnings_validateText_standard (known : Option (List Text)) (limit : Option Int)
    (template : Text) (engine : Engine) :
    (engine.validateText { strictness := .standard, known, limit } template).1.warnings =
      Validation.findings engine.dialect.filters template ++
        Validation.checkVariables known (engine.variableNames template).1 := by
  rw [warnings_validateText (by simp)]
  simp [Validation.isError_standard]

variable (known : Option (List Text)) (limit : Option Int) (template : Option Text)
  (engine : Engine)

theorem errors_validate_permissive :
    (engine.validate { strictness := .permissive, known, limit } template).1.errors =
      (engine.validate { strictness := .standard, known, limit } template).1.errors := by
  match template with
  | none | some [] => rfl
  | some (c :: rest) => exact (errors_validateText_standard known limit (c :: rest) engine).symm

theorem errors_validate_strict :
    (engine.validate { strictness := .strict, known, limit } template).1.errors =
      (engine.validate { strictness := .standard, known, limit } template).1.errors ++
        (engine.validate { strictness := .standard, known, limit } template).1.warnings.filter
          (isUnknownFilterMessage ·.message) := by
  match template with
  | none | some [] => rfl
  | some (c :: rest) =>
      simp only [validate]
      rw [errors_validateText (by simp), errors_validateText_standard,
        warnings_validateText_standard, List.filter_append]
      have hvariables : (Validation.checkVariables known
          (engine.variableNames (c :: rest)).1).filter (isUnknownFilterMessage ·.message) = [] := by
        refine List.filter_eq_nil_iff.mpr fun finding hfinding => ?_
        simp [Validation.isUnknownFilterMessage_of_mem_checkVariables hfinding]
      rw [hvariables, List.append_nil]
      congr 2
      funext finding
      exact Validation.isError_strict finding

theorem warnings_validate_strict :
    (engine.validate { strictness := .strict, known, limit } template).1.warnings =
      (engine.validate { strictness := .standard, known, limit } template).1.warnings.filter
        (!isUnknownFilterMessage ·.message) := by
  match template with
  | none | some [] => rfl
  | some (c :: rest) =>
      simp only [validate]
      rw [warnings_validateText (by simp), warnings_validateText_standard, List.filter_append]
      have hvariables : (Validation.checkVariables known
          (engine.variableNames (c :: rest)).1).filter (!isUnknownFilterMessage ·.message) =
          Validation.checkVariables known (engine.variableNames (c :: rest)).1 := by
        refine List.filter_eq_self.mpr fun finding hfinding => ?_
        simp [Validation.isUnknownFilterMessage_of_mem_checkVariables hfinding]
      rw [hvariables]
      congr 2
      funext finding
      rw [Validation.isError_strict]

theorem variableNames_validate_congr (strictness other : Strictness) :
    (engine.validate { strictness, known, limit } template).1.variableNames =
      (engine.validate { strictness := other, known, limit } template).1.variableNames := by
  match template with
  | none | some [] => rfl
  | some (c :: rest) =>
      simp only [validate, validateText]
      split <;> split <;> rfl

theorem measures_validate_congr (strictness other : Strictness) :
    (engine.validate { strictness, known, limit } template).1.measures =
      (engine.validate { strictness := other, known, limit } template).1.measures := by
  match template with
  | none | some [] => rfl
  | some (c :: rest) =>
      simp only [validate, validateText]
      split <;> split <;> rfl

/-- Checks of one template by engines that have the same filters and places, whatever they remember:
a permissive and a standard check give the same errors, a strict check gives those and then the
messages about unknown filters that the standard check gives as warnings, and keeps the other
warnings. All of them give the same variables and measures, and a template that passes a check
passes each less strict one. -/
theorem validate_stricter {engine second third : Engine} (hsecond : engine.dialect = second.dialect)
    (hthird : engine.dialect = third.dialect) (known : Option (List Text)) (limit : Option Int)
    (template : Option Text) :
    let permissive := (engine.validate { strictness := .permissive, known, limit } template).1
    let standard := (second.validate { strictness := .standard, known, limit } template).1
    let strict := (third.validate { strictness := .strict, known, limit } template).1
    permissive.errors.map Finding.message = standard.errors.map Finding.message ∧
      strict.errors.map Finding.message = standard.errors.map Finding.message ++
        (standard.warnings.map Finding.message).filter isUnknownFilterMessage ∧
      strict.warnings.map Finding.message =
        (standard.warnings.map Finding.message).filter (!isUnknownFilterMessage ·) ∧
      (permissive.variableNames = standard.variableNames ∧
        strict.variableNames = standard.variableNames) ∧
      (permissive.measures = standard.measures ∧ strict.measures = standard.measures) ∧
      (strict.isValid = true → standard.isValid = true) ∧
      (standard.isValid = true → permissive.isValid = true) := by
  intro permissive standard strict
  have hstandard : standard = (engine.validate { strictness := .standard, known, limit }
      template).1 := (validate_fst_congr hsecond _ template).symm
  have hstrict : strict = (engine.validate { strictness := .strict, known, limit } template).1 :=
    (validate_fst_congr hthird _ template).symm
  have herrors : permissive.errors = standard.errors := by
    rw [hstandard]
    exact errors_validate_permissive known limit template engine
  have hmore : strict.errors = standard.errors ++
      standard.warnings.filter (isUnknownFilterMessage ·.message) := by
    rw [hstandard, hstrict]
    exact errors_validate_strict known limit template engine
  have hless : strict.warnings = standard.warnings.filter (!isUnknownFilterMessage ·.message) := by
    rw [hstandard, hstrict]
    exact warnings_validate_strict known limit template engine
  refine ⟨?_, ?_, ?_, ⟨?_, ?_⟩, ⟨?_, ?_⟩, ?_, ?_⟩
  · rw [herrors]
  · rw [hmore, List.map_append, List.filter_map]
    rfl
  · rw [hless, List.filter_map]
    rfl
  · rw [hstandard]
    exact variableNames_validate_congr known limit template engine _ _
  · rw [hstandard, hstrict]
    exact variableNames_validate_congr known limit template engine _ _
  · rw [hstandard]
    exact measures_validate_congr known limit template engine _ _
  · rw [hstandard, hstrict]
    exact measures_validate_congr known limit template engine _ _
  · intro hvalid
    rw [Validation.isValid, hmore, List.isEmpty_iff] at hvalid
    rw [Validation.isValid, (List.append_eq_nil_iff.mp hvalid).1]
    rfl
  · intro hvalid
    rwa [Validation.isValid, herrors]

theorem validate_stricter_remembering :
    let template : Option Text :=
      some "\x7b\x7ba|x|trim\x7d\x7d\x7b\x7b(b\x7d\x7d\x7b\x7bc|y|x\x7d\x7d"
    let second := (({} : Engine).validate { strictness := .permissive } template).2
    ({} : Engine).dialect = second.dialect ∧
      (({} : Engine).validate { strictness := .standard } template).1.warnings.map
          Finding.message =
        ["Unknown filter: x", "Unbalanced parentheses in '\x7b\x7b(b\x7d\x7d'",
          "Unknown filter: y"] ∧
      (second.validate { strictness := .strict } template).1.errors.map Finding.message =
        ["Unknown filter: x", "Unknown filter: y"] ∧
      (second.validate { strictness := .strict } template).1.warnings.map Finding.message =
        ["Unbalanced parentheses in '\x7b\x7b(b\x7d\x7d'"] := by
  intro template second
  obtain ⟨-, herrors, hwarnings, -⟩ := @validate_stricter {} {} second rfl rfl none none template
  have hstandard : (({} : Engine).validate { strictness := .standard } template).1.warnings.map
      Finding.message = ["Unknown filter: x", "Unbalanced parentheses in '\x7b\x7b(b\x7d\x7d'",
        "Unknown filter: y"] := by decide
  rw [hstandard] at herrors hwarnings
  exact ⟨rfl, hstandard, herrors, hwarnings⟩

end Engine

end Clippings
