import Clippings.Proofs.Expression.Pieces
import Clippings.Proofs.Outcome
import Clippings.Proofs.Template.Checking

namespace Clippings

def unknownFilterName? (message : Text) : Option Text :=
  let start : Text := "Unknown filter: "
  if Text.startsWith message start then some (message.drop start.length) else none

theorem unknownFilterName?_append (name : Text) :
    unknownFilterName? ("Unknown filter: " ++ name) = some name := by
  have hstart : Text.startsWith ("Unknown filter: " ++ name) "Unknown filter: " = true :=
    List.isPrefixOf_iff_prefix.mpr (List.prefix_append _ _)
  simp only [unknownFilterName?, hstart, if_true, List.drop_left]

def FilterTable.unknownNames (table : FilterTable) (calls : List FilterCall) : List Text :=
  (calls.map (·.name)).filter (!table.has ·)

def Warning.unknownName? : Warning → Option Text
  | unknownFilter name => some name
  | failedFilter .. => none

def Finding.unknownName? : Finding → Option Text
  | unknownFilter name => some name
  | _ => none

theorem Warning.unknownFilterName?_message (warning : Warning) :
    unknownFilterName? warning.message = warning.unknownName? := by
  cases warning with
  | unknownFilter name => exact unknownFilterName?_append name
  | failedFilter name failure => rfl

theorem Finding.unknownFilterName?_message (finding : Finding) :
    unknownFilterName? finding.message = finding.unknownName? := by
  cases finding with
  | unknownFilter name => exact unknownFilterName?_append name
  | _ => rfl

theorem FilterTable.filterMap_applyAll (table : FilterTable) (calls : List FilterCall)
    (value : Value) :
    (table.applyAll calls value).2.filterMap Warning.unknownName? = table.unknownNames calls := by
  induction calls generalizing value with
  | nil => rfl
  | cons call rest ih =>
      have hcall : (table.apply call value).2.filterMap Warning.unknownName? =
          if table.has call.name then [] else [call.name] := by
        unfold apply has
        cases table.get? call.name with
        | none => rfl
        | some filter =>
            cases hrun : filter.run value call.args <;> simp [hrun, Warning.unknownName?]
      rw [applyAll, List.filterMap_append, hcall, ih]
      cases h : table.has call.name <;> simp [unknownNames, h]

namespace Dialect

theorem filterMap_renderExpression {dialect : Dialect} {expression : Expression} {context : Value}
    {rendering : Rendering} (h : dialect.renderExpression expression context = .ok rendering) :
    rendering.warnings.filterMap Warning.unknownName? =
      dialect.filters.unknownNames expression.filters := by
  obtain ⟨⟨value, warnings⟩, hvalue, h⟩ := Except.exists_of_bind_eq_ok h
  obtain ⟨found, -, hfound⟩ := Except.exists_of_bind_eq_ok hvalue
  obtain ⟨text, -, h⟩ := Except.exists_of_bind_eq_ok h
  obtain rfl := Except.ok.inj h
  obtain ⟨-, rfl⟩ := Prod.mk.inj (Except.ok.inj hfound)
  exact dialect.filters.filterMap_applyAll expression.filters found

theorem filterMap_renderHoles {dialect : Dialect} {context : Value} {holes : List (Text × Text)}
    {rendering : Rendering} (h : dialect.renderHoles context holes = .ok rendering) :
    rendering.warnings.filterMap Warning.unknownName? =
      holes.flatMap fun hole =>
        dialect.filters.unknownNames (Expression.parse (Text.strip hole.2)).filters := by
  induction holes generalizing rendering with
  | nil =>
      obtain rfl := Except.ok.inj h
      rfl
  | cons hole rest ih =>
      obtain ⟨literal, body⟩ := hole
      obtain ⟨first, hfirst, h⟩ := Except.exists_of_bind_eq_ok h
      obtain ⟨others, hothers, h⟩ := Except.exists_of_bind_eq_ok h
      obtain rfl := Except.ok.inj h
      rw [Rendering.append, List.filterMap_append, List.flatMap_cons,
        filterMap_renderExpression hfirst, ih hothers]

end Dialect

theorem Engine.filterMap_render {engine : Engine} {template : Text} {context : Value}
    {rendering : Rendering} (h : (engine.render (.text template) context).1 = .ok rendering) :
    rendering.warnings.filterMap Warning.unknownName? =
      (placeholders template).flatMap fun body =>
        engine.dialect.filters.unknownNames (Expression.parse body).filters := by
  cases context with
  | map entries =>
      rw [render_fst] at h
      obtain ⟨inside, hinside, h⟩ := Except.exists_of_bind_eq_ok h
      obtain rfl := Except.ok.inj h
      rw [Dialect.filterMap_renderHoles hinside, placeholders, Template.bodies, List.flatMap_map]
  | _ => cases h

namespace Validation

theorem checkFilters_cons_of_reported {filters : FilterTable} {reported : List Text}
    {call : FilterCall} (h : (filters.has call.name || reported.contains call.name) = true)
    (rest : List FilterCall) :
    checkFilters filters reported (call :: rest) = checkFilters filters reported rest := by
  rw [checkFilters, if_pos h]

theorem checkFilters_cons_of_new {filters : FilterTable} {reported : List Text}
    {call : FilterCall} (h : ¬ (filters.has call.name || reported.contains call.name) = true)
    (rest : List FilterCall) :
    checkFilters filters reported (call :: rest) =
      (.unknownFilter call.name :: (checkFilters filters (call.name :: reported) rest).1,
        (checkFilters filters (call.name :: reported) rest).2) := by
  rw [checkFilters, if_neg h]

theorem checkFilters_append (filters : FilterTable) (reported : List Text)
    (calls others : List FilterCall) :
    (checkFilters filters reported (calls ++ others)).1 =
      (checkFilters filters reported calls).1 ++
        (checkFilters filters (checkFilters filters reported calls).2 others).1 := by
  induction calls generalizing reported with
  | nil => rfl
  | cons call rest ih =>
      rw [List.cons_append]
      by_cases h : (filters.has call.name || reported.contains call.name) = true
      · rw [checkFilters_cons_of_reported h, checkFilters_cons_of_reported h, ih]
      · rw [checkFilters_cons_of_new h, checkFilters_cons_of_new h, ih, List.cons_append]

theorem filterMap_checkFilters (filters : FilterTable) (reported : List Text)
    (calls : List FilterCall) :
    (checkFilters filters reported calls).1.filterMap Finding.unknownName? =
      ((filters.unknownNames calls).filter (!reported.contains ·)).eraseDups := by
  induction calls generalizing reported with
  | nil => rfl
  | cons call rest ih =>
      by_cases h : (filters.has call.name || reported.contains call.name) = true
      · rw [checkFilters_cons_of_reported h, ih]
        cases hknown : filters.has call.name with
        | true => simp [FilterTable.unknownNames, hknown]
        | false =>
            have hreported : call.name ∈ reported := by simpa [hknown] using h
            simp [FilterTable.unknownNames, hknown, hreported]
      · simp only [checkFilters_cons_of_new h, List.filterMap_cons, Finding.unknownName?, ih]
        obtain ⟨hknown, hreported⟩ : filters.has call.name = false ∧ call.name ∉ reported := by
          simpa using h
        simp only [FilterTable.unknownNames, List.map_cons]
        rw [List.filter_cons_of_pos (by simpa using hknown),
          List.filter_cons_of_pos (by simpa using hreported), List.eraseDups_cons]
        simp only [List.filter_filter]
        refine congrArg (call.name :: List.eraseDups ·) (List.filter_congr fun name _ => ?_)
        by_cases hname : name = call.name <;> simp [hname]

theorem filterMap_checkBody (body : Text) (expression : Expression) :
    (checkBody body expression).filterMap Finding.unknownName? = [] := by
  simp only [checkBody, List.filterMap_append]
  split <;> split <;> split <;> rfl

/-- The names that are reported do not depend on where placeholders begin and end; those without a
variable have no filters. -/
theorem filterMap_checkExpressions (filters : FilterTable) (reported : List Text)
    (parsed : List (Text × Expression))
    (hparsed : ∀ pair ∈ parsed, pair.2.variableName = [] → pair.2.filters = []) :
    (checkExpressions filters reported parsed).filterMap Finding.unknownName? =
      (checkFilters filters reported (parsed.flatMap (·.2.filters))).1.filterMap
        Finding.unknownName? := by
  induction parsed generalizing reported with
  | nil => rfl
  | cons pair rest ih =>
      obtain ⟨body, expression⟩ := pair
      obtain ⟨hfirst, hrest⟩ := List.forall_mem_cons.mp hparsed
      rw [List.flatMap_cons, checkExpressions]
      by_cases hempty : expression.variableName = []
      · rw [if_pos (by simpa using hempty), hfirst hempty, List.nil_append, ← ih reported hrest]
        rfl
      · rw [if_neg (by simpa using hempty), checkFilters_append]
        simp only [List.filterMap_append, filterMap_checkBody, List.nil_append, ih _ hrest]

theorem filterMap_filter_of_keeps {keeps : Finding → Bool}
    (h : ∀ name, keeps (.unknownFilter name) = true) (findings : List Finding) :
    (findings.filter keeps).filterMap Finding.unknownName? =
      findings.filterMap Finding.unknownName? := by
  rw [List.filterMap_filter]
  congr 1
  funext finding
  cases finding with
  | unknownFilter name => rw [if_pos (h name)]
  | _ => exact ite_self none

theorem filterMap_checkVariables (known : Option (List Text)) (variableNames : List Text) :
    (checkVariables known variableNames).filterMap Finding.unknownName? = [] := by
  unfold checkVariables
  split
  · rfl
  · split <;> rfl

theorem filterMap_checkText (limit : Option Int) (template : Text) :
    (checkLength limit template ++ checkDelimiters template).filterMap Finding.unknownName? =
      [] := by
  have hlength : (checkLength limit template).filterMap Finding.unknownName? = [] := by
    unfold checkLength
    split
    · split <;> rfl
    · rfl
  have hdelimiters : (checkDelimiters template).filterMap Finding.unknownName? = [] := by
    simp only [checkDelimiters]
    split <;> rfl
  rw [List.filterMap_append, hlength, hdelimiters, List.nil_append]

end Validation

theorem Validation.filterMap_findings (filters : FilterTable) (template : Text) :
    (findings filters template).filterMap Finding.unknownName? =
      ((Engine.placeholders template).flatMap fun body =>
        filters.unknownNames (Expression.parse body).filters).eraseDups := by
  rw [findings, filterMap_checkExpressions, filterMap_checkFilters, List.flatMap_map]
  · congr 1
    simp [FilterTable.unknownNames, List.map_flatMap, List.filter_flatMap]
  · intro pair hpair
    obtain ⟨body, -, rfl⟩ := List.mem_map.mp hpair
    exact Expression.filters_parse_of_variableName_eq_nil

/-- Wherever a template can be rendered, a check names the filters that rendering warns about: each
once, in the order of the first warnings, among the warnings or, if it is strict, the errors. -/
theorem Engine.unknownFilters_validate (engine : Engine) {template : Text}
    (htemplate : template ≠ []) {context : Value} {rendering : Rendering}
    (hrendering : (engine.render (.text template) context).1 = .ok rendering)
    (known : Option (List Text)) (limit : Option Int) :
    ((engine.validate { strictness := .standard, known, limit } (some template)).1.warnings.map
        Finding.message).filterMap unknownFilterName? =
        ((rendering.warnings.map Warning.message).filterMap unknownFilterName?).eraseDups ∧
      ((engine.validate { strictness := .strict, known, limit } (some template)).1.errors.map
        Finding.message).filterMap unknownFilterName? =
        ((rendering.warnings.map Warning.message).filterMap unknownFilterName?).eraseDups := by
  have hwarnings : ((rendering.warnings.map Warning.message).filterMap
      unknownFilterName?).eraseDups =
      (Validation.findings engine.dialect.filters template).filterMap Finding.unknownName? := by
    rw [List.filterMap_map, Validation.filterMap_findings, ← filterMap_render hrendering]
    congr 2
    funext warning
    exact warning.unknownFilterName?_message
  have hmessages : ∀ findings : List Finding, (findings.map Finding.message).filterMap
      unknownFilterName? = findings.filterMap Finding.unknownName? := by
    intro findings
    rw [List.filterMap_map]
    congr 1
    funext finding
    exact finding.unknownFilterName?_message
  rw [hwarnings, hmessages, hmessages, validate_of_ne_nil htemplate, validate_of_ne_nil htemplate]
  constructor
  · rw [warnings_validateText (by simp), List.filterMap_append,
      Validation.filterMap_filter_of_keeps (fun _ => rfl), Validation.filterMap_checkVariables,
      List.append_nil]
  · rw [errors_validateText (by simp), List.filterMap_append, Validation.filterMap_checkText,
      Validation.filterMap_filter_of_keeps (fun _ => rfl), List.nil_append]

theorem Engine.unknownFilters_validate_twice :
    ("\x7b\x7ba|x|trim:'1'|y|x\x7d\x7d" : Text) ≠ [] ∧
      (({} : Engine).render (.text "\x7b\x7ba|x|trim:'1'|y|x\x7d\x7d")
        (.map [(.text "a", .text "s")])).1 =
        .ok { output := "s"
              warnings := [.unknownFilter "x", .failedFilter "trim" (.argumentCount "trim" 1 1 2),
                .unknownFilter "y", .unknownFilter "x"] } ∧
      ((({} : Engine).validate { strictness := .standard }
        (some "\x7b\x7ba|x|trim:'1'|y|x\x7d\x7d")).1.warnings.map Finding.message).filterMap
        unknownFilterName? = ["x", "y"] ∧
      ((({} : Engine).validate { strictness := .strict }
        (some "\x7b\x7ba|x|trim:'1'|y|x\x7d\x7d")).1.errors.map Finding.message).filterMap
        unknownFilterName? = ["x", "y"] :=
  ⟨by decide, rfl, @Engine.unknownFilters_validate {} "\x7b\x7ba|x|trim:'1'|y|x\x7d\x7d"
    (by decide) (.map [(.text "a", .text "s")]) _ rfl none none⟩

end Clippings
