import Clippings.Proofs.Template.Memory
import Clippings.Template.Validation

namespace Clippings

def Validation.findings (filters : FilterTable) (template : Text) : List Finding :=
  checkExpressions filters []
    ((Engine.placeholders template).map fun body => (body, Expression.parse body))

namespace Engine

theorem variableNames_fst (template : Text) (engine : Engine) :
    (engine.variableNames template).1 =
      Text.sortedSet ((((placeholders template).map Expression.parse).map (·.variableName)).filter
        (!·.isEmpty)) := by
  simp only [variableNames, parseAll_fst]

theorem variableNames_snd (template : Text) (engine : Engine) :
    (engine.variableNames template).2 = (engine.parseAll (placeholders template)).2 := rfl

theorem zip_parseAll_fst (bodies : List Text) (engine : Engine) :
    bodies.zip (engine.parseAll bodies).1 =
      bodies.map fun body => (body, Expression.parse body) := by
  rw [parseAll_fst]
  simpa using List.zip_map' (l := bodies) (f := id) (g := Expression.parse)

theorem errors_validateText {expectations : Expectations}
    (h : expectations.strictness ≠ .permissive) (template : Text) (engine : Engine) :
    (engine.validateText expectations template).1.errors =
      Validation.checkLength expectations.limit template ++ Validation.checkDelimiters template ++
        (Validation.findings engine.dialect.filters template).filter
          (Validation.isError expectations.strictness) := by
  simp only [validateText, if_neg h, variableNames_snd, zip_parseAll_fst, parseAll_dialect,
    List.partition_eq_filter_filter]
  rfl

theorem warnings_validateText {expectations : Expectations}
    (h : expectations.strictness ≠ .permissive) (template : Text) (engine : Engine) :
    (engine.validateText expectations template).1.warnings =
      (Validation.findings engine.dialect.filters template).filter
          (! Validation.isError expectations.strictness ·) ++
        Validation.checkVariables expectations.known (engine.variableNames template).1 := by
  simp only [validateText, if_neg h, variableNames_snd, zip_parseAll_fst, parseAll_dialect,
    List.partition_eq_filter_filter]
  rfl

theorem validate_of_ne_nil {template : Text} (h : template ≠ []) (expectations : Expectations)
    (engine : Engine) :
    engine.validate expectations (some template) = engine.validateText expectations template := by
  cases template with
  | nil => exact absurd rfl h
  | cons c rest => rfl

theorem validateText_fst_congr {engine other : Engine} (h : engine.dialect = other.dialect)
    (expectations : Expectations) (template : Text) :
    (engine.validateText expectations template).1 =
      (other.validateText expectations template).1 := by
  simp only [validateText, variableNames_fst, variableNames_snd, parseAll_fst, parseAll_dialect, h]
  split <;> rfl

theorem validateText_snd (expectations : Expectations) (template : Text) (engine : Engine) :
    (engine.validateText expectations template).2 =
      if expectations.strictness = .permissive then
        (engine.parseAll (placeholders template)).2
      else (engine.parseAll (placeholders template ++ placeholders template)).2 := by
  rw [parseAll_append]
  by_cases h : expectations.strictness = .permissive
  · simp only [validateText, if_pos h, variableNames_snd]
  · simp only [validateText, if_neg h, variableNames_snd]

end Engine

end Clippings
