import Clippings.Proofs.Filter.Data
import Clippings.Proofs.Template.Rendering
import Clippings.Proofs.Variable.Resolution
/-!
How rendering fails. In a mapping only two things stop it: a place that fails to give a variable its
value, and a value that has no text. The usual places fail only at a position with too many digits,
and page data has a text as far as there is room for it.
-/

namespace Clippings

def Failure.IsLongNumber (failure : Failure) : Prop := ∃ digits, failure = .longNumber digits

theorem Failure.IsLongRun.isLongNumber {text : Text} {failure : Failure}
    (h : failure.IsLongRun text) : failure.IsLongNumber := by
  cases h
  exact ⟨_, rfl⟩

/-- A place fails in some way on the name of a variable, alone or in a mapping. -/
def VariablePlace.Raises (place : VariablePlace) (failure : Failure) : Prop :=
  ∃ variableName, place.admits variableName = .error failure ∨
    ∃ context : Entries, place.resolve variableName (.map context) = .error failure

inductive Failure.StopsRendering (places : List VariablePlace) : Failure → Prop
  | place {place : VariablePlace} {failure : Failure} (member : place ∈ places)
      (raises : place.Raises failure) : StopsRendering places failure
  | unprintable (e : PrintError) : StopsRendering places (.unprintable e)

inductive Failure.StopsData : Failure → Prop
  | longNumber (digits : Nat) : StopsData (.longNumber digits)
  | tooDeep (descent : Descent) : StopsData (.unprintable (.tooDeep descent))

theorem Failure.IsLongRun.stopsData {text : Text} {failure : Failure}
    (h : failure.IsLongRun text) : failure.StopsData := by
  cases h
  exact .longNumber _

theorem VariablePlace.isLongNumber_of_raises {place : VariablePlace}
    (hplace : place ∈ VariablePlace.builtin) {failure : Failure} (h : place.Raises failure) :
    failure.IsLongNumber := by
  obtain ⟨space, -, rfl⟩ := List.mem_map.mp hplace
  obtain ⟨variableName, hadmits | ⟨context, hresolve⟩⟩ := h
  · cases hadmits
  · have hsettles := @Namespace.settles_resolve _ Value.closedUnderParts_true context trivial
      variableName space
    exact (hsettles.fails failure hresolve).isLongNumber

theorem failsOnly_resolveIn {places : List VariablePlace} {p : Failure → Prop}
    (h : ∀ place ∈ places, ∀ failure, place.Raises failure → p failure) (variableName : Text)
    (context : Entries) : FailsOnly p (resolveIn places variableName (.map context)) := by
  induction places with
  | nil => exact .ok trivial
  | cons place rest ih =>
      obtain ⟨hplace, hrest⟩ := List.forall_mem_cons.mp h
      rw [resolveIn]
      have hadmits : FailsOnly p (place.admits variableName) :=
        ⟨fun failure hfailure => hplace failure ⟨variableName, .inl hfailure⟩, fun _ _ => trivial⟩
      refine hadmits.bind fun admits _ => ?_
      split
      · exact ⟨fun failure hfailure => hplace failure ⟨variableName, .inr ⟨context, hfailure⟩⟩,
          fun _ _ => trivial⟩
      · exact ih hrest

namespace Dialect

theorem failsOnly_renderHoles {p : Failure → Prop} {dialect : Dialect} {context : Value}
    (h : ∀ expression, FailsOnly p (dialect.renderExpression expression context))
    (holes : List (Text × Text)) : FailsOnly p (dialect.renderHoles context holes) := by
  induction holes with
  | nil => exact .ok trivial
  | cons hole rest ih =>
      exact (h _).bind fun first _ => ih.bind fun others _ => .ok trivial

theorem failsOnly_renderText {p : Failure → Prop} {dialect : Dialect} {context : Value}
    (h : ∀ expression, FailsOnly p (dialect.renderExpression expression context)) (text : Text) :
    FailsOnly p (dialect.renderText context text) :=
  (failsOnly_renderHoles h _).bind fun _ _ => .ok trivial

theorem failsOnly_renderExpression (dialect : Dialect) (context : Entries)
    (expression : Expression) :
    FailsOnly (Failure.StopsRendering dialect.places)
      (dialect.renderExpression expression (.map context)) := by
  have hvalue : FailsOnly (Failure.StopsRendering dialect.places)
      (resolveIn dialect.places expression.variableName (.map context)) :=
    failsOnly_resolveIn (fun place hplace failure h => .place hplace h) _ _
  refine Settles.bind (q := fun _ => True) ?_ fun found _ => ?_
  · exact hvalue.bind fun value _ => .ok trivial
  · have htext : FailsOnly (Failure.StopsRendering dialect.places)
        (found.1.displayed dialect.runtime) := Settles.mapError .unprintable
    exact htext.bind fun text _ => .ok trivial

/-- With filters that keep page data and the usual places, what stops the rendering in the context
of a page is a position with too many digits or data that is nested too deep. -/
theorem failsOnly_renderExpression_of_isPageData {dialect : Dialect}
    (hfilters : dialect.filters.KeepsData) (hplaces : dialect.places = VariablePlace.builtin)
    {context : Entries} (hcontext : (Value.map context).IsPageData) (expression : Expression) :
    FailsOnly Failure.StopsData (dialect.renderExpression expression (.map context)) := by
  have hvalue := settles_resolveIn Value.closedUnderParts_isPageData hcontext
    expression.variableName
  rw [← hplaces] at hvalue
  refine Settles.bind (q := fun found => found.1.IsPageData) ?_ fun found hfound => ?_
  · exact (hvalue.mono (fun _ h => h.stopsData) fun _ h => h).bind fun value h =>
      .ok (FilterTable.isPageData_applyAll hfilters expression.filters h)
  · rcases Value.displayed_cases hfound dialect.runtime with
      ⟨-, text, htext⟩ | ⟨-, descent, hdescent⟩
    · simp only [htext]
      exact .ok trivial
    · simp only [hdescent]
      exact .error (.tooDeep descent)

end Dialect

namespace Engine

theorem failsOnly_render (text : Text) (context : Entries) (engine : Engine) :
    FailsOnly (Failure.StopsRendering engine.dialect.places)
      (engine.render (.text text) (.map context)).1 := by
  rw [render_fst]
  exact Dialect.failsOnly_renderText (engine.dialect.failsOnly_renderExpression context) text

theorem failsOnly_render_of_isPageData (text : Text) {context : Entries} {engine : Engine}
    (hfilters : engine.dialect.filters.KeepsData)
    (hplaces : engine.dialect.places = VariablePlace.builtin)
    (hcontext : (Value.map context).IsPageData) :
    FailsOnly Failure.StopsData (engine.render (.text text) (.map context)).1 := by
  rw [render_fst]
  exact Dialect.failsOnly_renderText
    (Dialect.failsOnly_renderExpression_of_isPageData hfilters hplaces hcontext) text

end Engine

end Clippings
