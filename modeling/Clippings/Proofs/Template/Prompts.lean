import Clippings.Proofs.Expression.Rereading
import Clippings.Proofs.Template.Delimiters
import Clippings.Proofs.Template.Rendering
import Clippings.Proofs.Text.Cutting
import Clippings.Proofs.Variable.Places

namespace Clippings

namespace Template

def mapBodies (f : Text → Text) (template : Template) : Template :=
  { template with holes := template.holes.map fun (literal, body) => (literal, f body) }

theorem mapBodies_cons (f : Text → Text) (literal body : Text) (holes : List (Text × Text))
    (rest : Text) :
    mapBodies f ⟨(literal, body) :: holes, rest⟩ =
      ⟨(literal, f body) :: (mapBodies f ⟨holes, rest⟩).holes, rest⟩ := rfl

theorem fill_brace (f : Text → Text) (template : Template) :
    template.fill (template.holes.map fun hole => brace (f hole.2)) =
      (template.mapBodies f).text := by
  simp [fill, text, mapBodies, List.zipWith_map_right, List.flatMap_def, Function.comp_def]

theorem startsAt_of_other_body {literal body other tail more : Text} (hbody : IsBody body) {i : Nat}
    (hi : i < literal.length) (h : StartsAt (literal ++ (brace other ++ more)) i) :
    StartsAt (literal ++ (brace body ++ tail)) i := by
  obtain ⟨found, rest, hfound, hdrop⟩ := h
  rw [List.drop_append_of_le_length hi.le] at hdrop
  rw [StartsAt, List.drop_append_of_le_length hi.le]
  cases hliteral : literal.drop i with
  | nil =>
      have hlength := congrArg List.length hliteral
      simp only [List.length_drop, List.length_nil] at hlength
      omega
  | cons first following =>
      rw [hliteral, brace_append found] at hdrop
      cases following with
      | nil =>
          -- The braces are the last one of the literal and the first one of the placeholder.
          obtain rfl : first = '\x7b' := (List.cons.inj hdrop).1
          have hlonger : IsBody (.char '\x7b' :: body) :=
            ⟨List.cons_ne_nil _ _, by simpa using hbody.2⟩
          exact ⟨.char '\x7b' :: body, tail, hlonger, by simp [brace_append]⟩
      | cons second inside =>
          simp only [List.cons_append, List.cons.injEq] at hdrop
          obtain ⟨rfl, rfl, hinside⟩ := hdrop
          by_cases hclosing : .char '\x7d' ∈ inside
          · -- The placeholder ends in the literal.
            obtain ⟨before, after, rfl, hbefore⟩ := List.eq_append_cons_of_mem hclosing
            rw [List.append_assoc, List.cons_append] at hinside
            obtain ⟨rfl, hafter⟩ := Text.append_cons_inj hbefore hfound.2 hinside
            cases after with
            | nil => simp [brace_append] at hafter
            | cons last after =>
                obtain rfl : last = '\x7d' := (List.cons.inj hafter).1
                exact ⟨before, after ++ (brace body ++ tail), hfound, by simp [brace_append]⟩
          · have hlonger : IsBody (inside ++ .char '\x7b' :: .char '\x7b' :: body) :=
              ⟨by simp, by simpa [hclosing] using hbody.2⟩
            exact ⟨inside ++ .char '\x7b' :: .char '\x7b' :: body, tail,
              hlonger, by simp [brace_append]⟩

theorem IsReading.mapBodies {template : Template} {text : Text} (h : IsReading template text)
    {f : Text → Text} (hf : ∀ hole ∈ template.holes, IsBody (f hole.2)) :
    IsReading (template.mapBodies f) (template.mapBodies f).text := by
  obtain ⟨holes, rest⟩ := template
  induction holes generalizing text with
  | nil =>
      obtain ⟨rfl, hrest⟩ := isReading_nil_iff.mp h
      exact isReading_nil_iff.mpr ⟨rfl, hrest⟩
  | cons hole holes ih =>
      obtain ⟨literal, body⟩ := hole
      obtain ⟨hbody, hliteral, tail, rfl, hholes⟩ := isReading_cons_iff.mp h
      obtain ⟨hfirst, hothers⟩ := List.forall_mem_cons.mp hf
      rw [mapBodies_cons, text_cons]
      refine isReading_cons_iff.mpr ⟨hfirst, fun i hi hstart => ?_, _, rfl, ih hholes hothers⟩
      exact hliteral i hi (startsAt_of_other_body hbody hi hstart)

theorem ofText_mapBodies {text : Text} {f : Text → Text}
    (hf : ∀ hole ∈ (ofText text).holes, IsBody (f hole.2)) :
    ofText ((ofText text).mapBodies f).text = (ofText text).mapBodies f :=
  ((isReading_ofText text).mapBodies hf).eq_ofText.symm

end Template

structure Expression.IsPrompt (expression : Expression) : Prop where
  isPrompt : Namespace.isPrompt expression.variableName = true
  filters : expression.filters = []

/-- What is left of the body of a placeholder when its expression is a prompt. -/
def promptBody (body : Text) : Text := (Expression.parse (Text.strip body)).variableName

theorem parse_strip_promptBody (body : Text) :
    Expression.parse (Text.strip (promptBody body)) = { variableName := promptBody body } := by
  rw [promptBody, Expression.strip_variableName, Expression.parse_variableName]

theorem promptBody_promptBody (body : Text) : promptBody (promptBody body) = promptBody body := by
  rw [promptBody.eq_def (promptBody body), parse_strip_promptBody]

theorem isInfix_promptBody (body : Text) : promptBody body <:+: body :=
  (Expression.isInfix_variableName_parse _).trans (Text.strip_isInfix body)

theorem isBody_promptBody {body : Text} (hbody : Template.IsBody body)
    (hprompt : Namespace.isPrompt (promptBody body) = true) :
    Template.IsBody (promptBody body) := by
  constructor
  · intro hempty
    rw [hempty] at hprompt
    cases hprompt
  · intro hclosing
    exact hbody.2 ((isInfix_promptBody body).subset hclosing)

namespace Dialect

variable {dialect : Dialect} (hplaces : dialect.places = VariablePlace.builtin)
include hplaces

theorem evaluate_prompt {expression : Expression} (h : expression.IsPrompt) (context : Value) :
    dialect.evaluate expression context =
      .ok (.text (Template.brace expression.variableName), []) := by
  have hresolve : resolveIn dialect.places expression.variableName context =
      .ok (promptValue expression.variableName) := by
    have hplace : Namespace.ofVariable expression.variableName = .prompt := by
      simp [Namespace.ofVariable, Namespace.all, Namespace.admits, h.isPrompt]
    rw [hplaces, resolveIn_builtin, hplace]
    rfl
  rw [evaluate, hresolve, h.filters]
  rfl

theorem renderText_prompts {text : Text}
    (h : ∀ hole ∈ (Template.ofText text).holes, (Expression.parse (Text.strip hole.2)).IsPrompt)
    (context : Value) :
    dialect.renderText context text =
      .ok { output := ((Template.ofText text).mapBodies promptBody).text, warnings := [] } := by
  have hvalues : List.Forall₂ (fun hole value =>
      dialect.evaluate (Expression.parse (Text.strip hole.2)) context = .ok value)
      (Template.ofText text).holes
      ((Template.ofText text).holes.map fun hole =>
        (.text (Template.brace (promptBody hole.2)), [])) := by
    rw [List.forall₂_map_right_iff, List.forall₂_same]
    intro hole hhole
    exact evaluate_prompt hplaces (h hole hhole) context
  have htexts : List.Forall₂ (fun (value : Value × List Warning) text =>
      value.1.displayed dialect.runtime = .ok text)
      ((Template.ofText text).holes.map fun hole =>
        (.text (Template.brace (promptBody hole.2)), []))
      ((Template.ofText text).holes.map fun hole => Template.brace (promptBody hole.2)) := by
    rw [List.forall₂_map_left_iff, List.forall₂_map_right_iff, List.forall₂_same]
    intro hole hhole
    rfl
  rw [renderText, renderHoles_of_evaluate hvalues htexts, ← Template.fill_brace]
  simp [Template.fill, bind, Except.bind, pure, Except.pure, List.flatMap_map]

end Dialect

namespace Template

theorem isPrompt_of_mem_mapBodies {text : Text}
    (h : ∀ hole ∈ (ofText text).holes, (Expression.parse (Text.strip hole.2)).IsPrompt) :
    ∀ hole ∈ ((ofText text).mapBodies promptBody).holes,
      (Expression.parse (Text.strip hole.2)).IsPrompt := by
  intro hole hhole
  obtain ⟨⟨literal, body⟩, hmem, rfl⟩ := List.mem_map.mp hhole
  rw [parse_strip_promptBody]
  exact ⟨(h _ hmem).isPrompt, rfl⟩

theorem mapBodies_promptBody (template : Template) :
    (template.mapBodies promptBody).mapBodies promptBody = template.mapBodies promptBody := by
  simp [mapBodies, Function.comp_def, promptBody_promptBody]

end Template

/-- A template in which every placeholder is a prompt is rendered to its literals with the prompts
between braces. What is rendered has no remarks and stays as it is when it is rendered again. -/
theorem Engine.render_prompts {engine other : Engine}
    (hplaces : engine.dialect.places = VariablePlace.builtin)
    (hother : other.dialect.places = VariablePlace.builtin) {text : Text}
    (hprompts : ∀ body ∈ placeholders text, (Expression.parse body).IsPrompt)
    (first second : Entries) :
    let output := (Template.ofText text).fill
      ((placeholders text).map fun body => Template.brace (Expression.parse body).variableName)
    (engine.render (.text text) (.map first)).1 = .ok { output, warnings := [] } ∧
      (other.render (.text output) (.map second)).1 = .ok { output, warnings := [] } := by
  intro output
  have hholes : ∀ hole ∈ (Template.ofText text).holes,
      (Expression.parse (Text.strip hole.2)).IsPrompt := by
    intro hole hhole
    exact hprompts _ (List.mem_map_of_mem hhole)
  have houtput : output = ((Template.ofText text).mapBodies promptBody).text := by
    rw [← Template.fill_brace]
    simp [output, placeholders, Template.bodies, promptBody, Function.comp_def]
  have hreading : Template.ofText output = (Template.ofText text).mapBodies promptBody := by
    rw [houtput]
    apply Template.ofText_mapBodies
    intro hole hhole
    exact isBody_promptBody ((Template.isReading_ofText text).isBody hole hhole)
      (hholes hole hhole).isPrompt
  constructor
  · rw [render_fst, Dialect.renderText_prompts hplaces hholes, houtput]
  · have hagain : ∀ hole ∈ (Template.ofText output).holes,
        (Expression.parse (Text.strip hole.2)).IsPrompt := by
      rw [hreading]
      exact Template.isPrompt_of_mem_mapBodies hholes
    rw [render_fst, Dialect.renderText_prompts hother hagain, hreading,
      Template.mapBodies_promptBody, ← houtput]

theorem Engine.render_prompts_blanks :
    let text : Text :=
      "\x7b\x7b\x7d\x7b\x7b\"a (b|c)\"|\x7d\x7d, \x7b\x7b | \"it's | \" \x7d\x7d\x7d"
    let output : Text := "\x7b\x7b\x7d\x7b\x7b\"a (b|c)\"\x7d\x7d, \x7b\x7b\"it's | \"\x7d\x7d\x7d"
    (∀ body ∈ placeholders text, (Expression.parse body).IsPrompt) ∧
      (({} : Engine).render (.text text) (.map [])).1 = .ok { output, warnings := [] } ∧
      (({} : Engine).render (.text output) (.map [(.text "a", .int 1)])).1 =
        .ok { output, warnings := [] } := by
  intro text output
  have hprompts : ∀ body ∈ placeholders text, (Expression.parse body).IsPrompt := by
    have hall : ∀ body ∈ placeholders text,
        Namespace.isPrompt (Expression.parse body).variableName = true ∧
          (Expression.parse body).filters = [] := by
      decide
    exact fun body hbody => ⟨(hall body hbody).1, (hall body hbody).2⟩
  exact ⟨hprompts, render_prompts rfl rfl hprompts [] [(.text "a", .int 1)]⟩

end Clippings
