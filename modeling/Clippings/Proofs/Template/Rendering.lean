import Clippings.Proofs.Template.Reading
import Clippings.Template.Engine
import Mathlib.Data.List.Forall2
/-!
Rendering as substitution. What an engine remembers does not show in what it renders, and rendering
replaces the placeholders of the only reading of a text by the texts of their values.
-/

namespace Clippings

namespace Template

def fill (template : Template) (texts : List Text) : Text :=
  (List.zipWith (fun hole text => hole.1 ++ text) template.holes texts).flatten ++ template.rest

end Template

namespace Dialect

/-- Renders placeholders and the literal texts before them, without remembering anything. -/
def renderHoles (dialect : Dialect) (context : Value) :
    List (Text × Text) → Except Failure Rendering
  | [] => .ok {}
  | (literal, body) :: rest => do
    let first ← dialect.renderExpression (Expression.parse (Text.strip body)) context
    let others ← dialect.renderHoles context rest
    return first.append literal others

def renderText (dialect : Dialect) (context : Value) (text : Text) : Except Failure Rendering := do
  let rendering ← dialect.renderHoles context (Template.ofText text).holes
  return { rendering with output := rendering.output ++ (Template.ofText text).rest }

end Dialect

namespace Engine

@[simp] theorem parse_fst (body : Text) (engine : Engine) :
    (engine.parse body).1 = Expression.parse body :=
  ParseCache.parse_fst engine.cacheSize body engine.cache

@[simp] theorem parse_dialect (body : Text) (engine : Engine) :
    (engine.parse body).2.dialect = engine.dialect := rfl

theorem evaluate_fst (body : Text) (context : Value) (engine : Engine) :
    (engine.evaluate body context).1 = engine.dialect.evaluate (Expression.parse body) context := by
  simp [evaluate]

theorem renderHoles_fst (context : Value) (holes : List (Text × Text)) (engine : Engine) :
    (engine.renderHoles context holes).1 = engine.dialect.renderHoles context holes := by
  induction holes generalizing engine with
  | nil => rfl
  | cons hole rest ih =>
      obtain ⟨literal, body⟩ := hole
      simp only [renderHoles, Dialect.renderHoles, parse_fst, parse_dialect]
      cases engine.dialect.renderExpression (Expression.parse (Text.strip body)) context with
      | error failure => rfl
      | ok first =>
          simp only [ih, parse_dialect]
          cases engine.dialect.renderHoles context rest <;> rfl

theorem render_fst (text : Text) (context : Entries) (engine : Engine) :
    (engine.render (.text text) (.map context)).1 =
      engine.dialect.renderText (.map context) text := by
  simp only [render, renderTemplate, renderHoles_fst, Dialect.renderText]
  cases engine.dialect.renderHoles (.map context) (Template.ofText text).holes <;> rfl

end Engine

theorem Dialect.renderExpression_of_evaluate {dialect : Dialect} {expression : Expression}
    {context value : Value} {warnings : List Warning} {text : Text}
    (hvalue : dialect.evaluate expression context = .ok (value, warnings))
    (htext : value.displayed dialect.runtime = .ok text) :
    dialect.renderExpression expression context = .ok { output := text, warnings } := by
  simp only [renderExpression, hvalue]
  change (do return ({ output := ← value.displayed dialect.runtime, warnings } : Rendering)) = _
  rw [htext]
  rfl

theorem Dialect.renderText_of_evaluate {dialect : Dialect} {template body text : Text}
    {context value : Value} {warnings : List Warning}
    (htemplate : Template.ofText template = ⟨[([], body)], []⟩)
    (hvalue : dialect.evaluate (Expression.parse (Text.strip body)) context =
      .ok (value, warnings))
    (htext : value.displayed dialect.runtime = .ok text) :
    dialect.renderText context template = .ok { output := text, warnings } := by
  simp only [renderText, htemplate, renderHoles, renderExpression_of_evaluate hvalue htext]
  show Except.ok _ = Except.ok _
  simp [Rendering.append]

theorem Dialect.renderHoles_of_evaluate {dialect : Dialect} {context : Value}
    {holes : List (Text × Text)} {values : List (Value × List Warning)} {texts : List Text}
    (hvalues : List.Forall₂ (fun hole value =>
      dialect.evaluate (Expression.parse (Text.strip hole.2)) context = .ok value) holes values)
    (htexts : List.Forall₂ (fun value text => value.1.displayed dialect.runtime = .ok text)
      values texts) :
    dialect.renderHoles context holes =
      .ok { output := (List.zipWith (fun hole text => hole.1 ++ text) holes texts).flatten
            warnings := values.flatMap (·.2) } := by
  induction hvalues generalizing texts with
  | nil =>
      cases htexts
      rfl
  | @cons hole value holes values hvalue hvalues ih =>
      obtain ⟨literal, body⟩ := hole
      obtain ⟨value, warnings⟩ := value
      cases htexts with
      | @cons _ text _ texts htext htexts =>
          rw [renderHoles, renderExpression_of_evaluate hvalue htext, ih htexts]
          simp only [bind, Except.bind, pure, Except.pure, Rendering.append]
          simp

/-- Every text splits in exactly one way into literals and placeholders so that no placeholder of
the text starts in a literal. The placeholders of that reading are the ones that are found, and if
each of them has a value with a text then rendering replaces each by its text and gives the warnings
of all. A text in which no placeholder starts is rendered as it is. -/
theorem Engine.render_eq_fill (text : Text) (context : Entries) (engine : Engine) :
    (∃! template, Template.IsReading template text) ∧
      (∀ template, Template.IsReading template text →
        Engine.placeholders text = template.holes.map (fun hole => Text.strip hole.2) ∧
          ∀ (values : List (Value × List Warning)) (texts : List Text),
            List.Forall₂ (fun hole value =>
              (engine.evaluate (Text.strip hole.2) (.map context)).1 = .ok value)
              template.holes values →
            List.Forall₂ (fun value text => value.1.displayed engine.dialect.runtime = .ok text)
              values texts →
            (engine.render (.text text) (.map context)).1 =
              .ok { output := template.fill texts, warnings := values.flatMap (·.2) }) ∧
      ((∀ i, ¬ Template.StartsAt text i) →
        (engine.render (.text text) (.map context)).1 =
          .ok { output := text, warnings := [] }) := by
  refine ⟨Template.existsUnique_isReading text, ?_, ?_⟩
  · intro template hreading
    obtain rfl := hreading.eq_ofText
    refine ⟨rfl, ?_⟩
    intro values texts hvalues htexts
    simp only [evaluate_fst] at hvalues
    rw [render_fst, Dialect.renderText, Dialect.renderHoles_of_evaluate hvalues htexts]
    rfl
  · intro hnone
    have hreading : Template.IsReading ⟨[], text⟩ text :=
      Template.isReading_nil_iff.mpr ⟨rfl, fun i _ => hnone i⟩
    rw [render_fst, Dialect.renderText, ← hreading.eq_ofText]
    rfl

theorem Engine.render_braces_in_value :
    (({} : Engine).evaluate "\x7ba" (.map [(.text "\x7ba", .text "\x7b\x7bb\x7d\x7d"),
        (.text "b", .int 1)])).1 = .ok (.text "\x7b\x7bb\x7d\x7d", []) ∧
      (({} : Engine).evaluate "b|nope" (.map [(.text "\x7ba", .text "\x7b\x7bb\x7d\x7d"),
        (.text "b", .int 1)])).1 = .ok (.int 1, [.unknownFilter "nope"]) ∧
      (({} : Engine).render (.text "\x7b\x7b\x7ba\x7d\x7d, \x7b\x7b b|nope \x7d\x7d!")
        (.map [(.text "\x7ba", .text "\x7b\x7bb\x7d\x7d"), (.text "b", .int 1)])).1 =
        .ok { output := "\x7b\x7bb\x7d\x7d, 1!", warnings := [.unknownFilter "nope"] } :=
  ⟨rfl, rfl,
    ((Engine.render_eq_fill _ _ {}).2.1 _ (Template.isReading_ofText _)).2
      [(.text "\x7b\x7bb\x7d\x7d", []), (.int 1, [.unknownFilter "nope"])]
      ["\x7b\x7bb\x7d\x7d", "1"]
      (.cons rfl (.cons rfl .nil)) (.cons rfl (.cons rfl .nil))⟩

end Clippings
