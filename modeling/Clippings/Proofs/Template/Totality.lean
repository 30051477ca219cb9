import Clippings.Proofs.Expression.Pieces
import Clippings.Proofs.Filter.Data
import Clippings.Proofs.Template.Rendering
import Clippings.Proofs.Variable.Resolution

namespace Clippings

theorem Template.isInfix_of_mem_holes {template : Template} {hole : Text × Text}
    (h : hole ∈ template.holes) : hole.2 <:+: template.text := by
  obtain ⟨before, after, hsplit⟩ := List.append_of_mem h
  refine ⟨before.flatMap (fun hole => hole.1 ++ brace hole.2) ++ hole.1 ++ "\x7b\x7b",
    "\x7d\x7d" ++ after.flatMap (fun hole => hole.1 ++ brace hole.2) ++ template.rest, ?_⟩
  simp [text, hsplit, brace]

theorem Template.isInfix_of_mem_holes_ofText {text : Text} {hole : Text × Text}
    (h : hole ∈ (ofText text).holes) : hole.2 <:+: text := by
  have hinfix := isInfix_of_mem_holes h
  rwa [text_ofText] at hinfix

namespace Dialect

variable {dialect : Dialect} (hfilters : dialect.filters.KeepsData)
  (hplaces : dialect.places = VariablePlace.builtin) {context : Entries}
  (hcontext : (Value.map context).IsPageData)
include hfilters hplaces hcontext

theorem exists_evaluate {expression : Expression} (hname : expression.variableName.HasShortRuns) :
    ∃ value warnings, dialect.evaluate expression (.map context) = .ok (value, warnings) ∧
      value.IsPageData := by
  have hsettles := settles_resolveIn Value.closedUnderParts_isPageData hcontext
    expression.variableName
  obtain ⟨found, hfound, hdata⟩ := hsettles.exists_ok hname.not_isLongRun
  refine ⟨_, (dialect.filters.applyAll expression.filters found).2, ?_,
    FilterTable.isPageData_applyAll hfilters expression.filters hdata⟩
  rw [evaluate, hplaces, hfound]
  rfl

theorem renderHoles_cases {holes : List (Text × Text)}
    (hholes : ∀ hole ∈ holes, Text.HasShortRuns hole.2) :
    (∃ rendering, dialect.renderHoles (.map context) holes = .ok rendering) ∧
        (∀ hole ∈ holes, ∀ value warnings,
          dialect.evaluate (Expression.parse (Text.strip hole.2)) (.map context) =
            .ok (value, warnings) → value.reach ≤ dialect.runtime.room) ∨
      (∃ descent, dialect.renderHoles (.map context) holes =
          .error (.unprintable (.tooDeep descent))) ∧
        ∃ hole ∈ holes, ∃ value warnings,
          dialect.evaluate (Expression.parse (Text.strip hole.2)) (.map context) =
            .ok (value, warnings) ∧ dialect.runtime.room < value.reach := by
  induction holes with
  | nil => exact .inl ⟨⟨{}, rfl⟩, by simp⟩
  | cons hole rest ih =>
      obtain ⟨literal, body⟩ := hole
      obtain ⟨hbody, hrest⟩ := List.forall_mem_cons.mp hholes
      have hname : (Expression.parse (Text.strip body)).variableName.HasShortRuns :=
        hbody.of_isInfix ((Expression.isInfix_variableName_parse _).trans (Text.strip_isInfix body))
      obtain ⟨value, warnings, hvalue, hdata⟩ := exists_evaluate hfilters hplaces hcontext hname
      rcases Value.displayed_cases hdata dialect.runtime with
        ⟨henough, text, htext⟩ | ⟨hshort, descent, hdescent⟩
      · have hfirst := renderExpression_of_evaluate hvalue htext
        rcases ih hrest with ⟨⟨others, hothers⟩, hroom⟩ | ⟨⟨descent, hothers⟩, hole, hhole, hdeep⟩
        · refine .inl ⟨⟨Rendering.append literal { output := text, warnings } others, ?_⟩, ?_⟩
          · rw [renderHoles, hfirst, hothers]
            rfl
          · refine List.forall_mem_cons.mpr ⟨?_, hroom⟩
            intro other remarks hother
            obtain ⟨rfl, -⟩ := Prod.mk.inj (Except.ok.inj (hvalue.symm.trans hother))
            exact henough
        · refine .inr ⟨⟨descent, ?_⟩, hole, List.mem_cons_of_mem _ hhole, hdeep⟩
          rw [renderHoles, hfirst, hothers]
          rfl
      · refine .inr ⟨⟨descent, ?_⟩, _, List.mem_cons_self, value, warnings, hvalue, hshort⟩
        rw [renderHoles, renderExpression, hvalue]
        simp only [bind, Except.bind, hdescent]

end Dialect

/-- An engine with the filters and the variables that every engine knows finds a value for every
placeholder of a template without too long numbers in the context of every page. It renders the
template exactly if none of these values reaches deeper than the run-time has room for, and only
that stops it. -/
theorem Engine.exists_render_iff {runtime : Runtime} {engine : Engine}
    (hengine : engine.dialect = { runtime := runtime }) {template : Text}
    (htemplate : template.HasShortRuns) {context : Entries}
    (hcontext : (Value.map context).IsPageData) :
    (∀ body ∈ placeholders template, ∃ value warnings,
        (engine.evaluate body (.map context)).1 = .ok (value, warnings) ∧ value.IsPageData) ∧
      ((∃ rendering, (engine.render (.text template) (.map context)).1 = .ok rendering) ↔
        ∀ body ∈ placeholders template, ∀ value warnings,
          (engine.evaluate body (.map context)).1 = .ok (value, warnings) →
            value.reach ≤ runtime.room) ∧
      ∀ failure, (engine.render (.text template) (.map context)).1 = .error failure →
        ∃ descent, failure = .unprintable (.tooDeep descent) := by
  have hfilters : engine.dialect.filters.KeepsData := by
    rw [hengine]
    exact FilterTable.keepsData_builtin runtime
  have hplaces : engine.dialect.places = VariablePlace.builtin := by rw [hengine]
  have hruntime : engine.dialect.runtime = runtime := by rw [hengine]
  have hholes : ∀ hole ∈ (Template.ofText template).holes, Text.HasShortRuns hole.2 :=
    fun hole hhole => htemplate.of_isInfix (Template.isInfix_of_mem_holes_ofText hhole)
  have hcases := Dialect.renderHoles_cases hfilters hplaces hcontext hholes
  simp only [placeholders, Template.bodies, List.forall_mem_map, evaluate_fst, render_fst,
    Dialect.renderText]
  rw [hruntime] at hcases
  refine ⟨fun hole hhole => ?_, ?_⟩
  · have hname := (hholes hole hhole).of_isInfix
      ((Expression.isInfix_variableName_parse _).trans (Text.strip_isInfix hole.2))
    exact Dialect.exists_evaluate hfilters hplaces hcontext hname
  · rcases hcases with
      ⟨⟨rendering, hrendering⟩, hroom⟩ | ⟨⟨descent, hdescent⟩, hole, hhole, value, warnings, hvalue,
        hdeep⟩
    · rw [hrendering]
      exact ⟨iff_of_true ⟨_, rfl⟩ hroom, by rintro failure ⟨⟩⟩
    · rw [hdescent]
      refine ⟨iff_of_false (by rintro ⟨_, ⟨⟩⟩) fun hroom => ?_, ?_⟩
      · exact absurd (hroom hole hhole value warnings hvalue) (Nat.not_le.mpr hdeep)
      · intro failure hfailure
        exact ⟨descent, (Except.error.inj hfailure).symm⟩

theorem Engine.exists_render_failing_filters :
    Text.HasShortRuns "\x7b\x7ba[1]|slice:'inf'|nope|json\x7d\x7d" ∧
      (Value.map [(.text "a", .list [.null, .float .nan])]).IsPageData ∧
      ∃ rendering, (({} : Engine).render (.text "\x7b\x7ba[1]|slice:'inf'|nope|json\x7d\x7d")
        (.map [(.text "a", .list [.null, .float .nan])])).1 = .ok rendering := by
  have hshort : Text.HasShortRuns "\x7b\x7ba[1]|slice:'inf'|nope|json\x7d\x7d" :=
    Text.hasShortRuns_of_length_le (by decide)
  have hnan : (Value.float .nan).IsPageData := .float trivial
  have hlist : (Value.list [.null, .float .nan]).IsPageData :=
    .list (by simpa using ⟨.null, hnan⟩)
  have hdata : (Value.map [(.text "a", .list [.null, .float .nan])]).IsPageData :=
    .map (by simp) (by simpa using hlist)
  refine ⟨hshort, hdata, (Engine.exists_render_iff rfl hshort hdata).2.1.mpr ?_⟩
  intro body hbody value warnings hvalue
  obtain rfl : body = "a[1]|slice:'inf'|nope|json" := List.mem_singleton.mp hbody
  have hreach : ((({} : Engine).evaluate "a[1]|slice:'inf'|nope|json"
      (.map [(.text "a", .list [.null, .float .nan])])).1.toOption.map fun found =>
        found.1.reach) = some 0 := by decide +kernel
  rw [hvalue] at hreach
  have hreach : value.reach = 0 := Option.some.inj hreach
  exact hreach.le.trans (Nat.zero_le _)

/-- A filter reads what is too deep to be shown. -/
theorem Engine.render_nestedJson :
    Text.HasShortRuns "\x7b\x7ba|parse_json\x7d\x7d" ∧
      (Value.map [(.text "a", .text nestedJson)]).IsPageData ∧
      ¬ ∃ rendering, (({} : Engine).render (.text "\x7b\x7ba|parse_json\x7d\x7d")
        (.map [(.text "a", .text nestedJson)])).1 = .ok rendering := by
  refine ⟨Text.hasShortRuns_of_length_le (by decide), .map (by simp) (by simpa using .text _), ?_⟩
  rintro ⟨rendering, hrendering⟩
  have hfails : (({} : Engine).render (.text "\x7b\x7ba|parse_json\x7d\x7d")
      (.map [(.text "a", .text nestedJson)])).1.isOk = false := by decide +kernel
  rw [hrendering] at hfails
  cases hfails

end Clippings
