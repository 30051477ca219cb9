import Clippings.Proofs.Outcome
import Clippings.Proofs.Template.Checking
import Clippings.Proofs.Template.Rendering
import Mathlib.Algebra.Order.BigOperators.Group.List
import Mathlib.Algebra.Order.Ring.Nat
/-!
Double braces in a template, inside and outside its placeholders. A check only compares how many
there are of each kind, so it sees opening braces outside the placeholders unless closing ones make
up for them.
-/

namespace Clippings

namespace Text

def pairs (c : CodePoint) : Text → Nat
  | [] => 0
  | [_] => 0
  | first :: second :: rest =>
    if first = c ∧ second = c then pairs c rest + 1 else pairs c (second :: rest)

theorem pair_prefix_iff {c first second : CodePoint} {rest : Text} :
    [c, c] <+: first :: second :: rest ↔ first = c ∧ second = c := by
  rw [List.cons_prefix_cons, List.cons_prefix_cons, eq_comm, eq_comm (a := c)]
  simp

theorem length_extendHead {pieces : List Text} (h : pieces ≠ []) (c : CodePoint) :
    (extendHead c pieces).length = pieces.length := by
  cases pieces with
  | nil => exact absurd rfl h
  | cons piece rest => rfl

theorem occurrences_pair (c : CodePoint) (text : Text) :
    occurrences [c, c] text = pairs c text := by
  have hlength : (splitAtFrom [c, c] 0 text).length = pairs c text + 1 := by
    fun_induction pairs c text with
    | case1 => rfl
    | case2 first =>
        rw [splitAtFrom, if_neg (by simp)]
        rfl
    | case3 first second rest hpair ih =>
        obtain ⟨rfl, rfl⟩ := hpair
        rw [splitAtFrom, if_pos (by simp), List.length_cons]
        exact congrArg (· + 1) ih
    | case4 first second rest hpair ih =>
        have hprefix : ¬ List.isPrefixOf [c, c] (first :: second :: rest) = true := by
          rw [List.isPrefixOf_iff_prefix, pair_prefix_iff]
          exact hpair
        rw [splitAtFrom, if_neg hprefix, length_extendHead (splitAtFrom_ne_nil _ _ _), ih]
  rw [occurrences, splitAt, hlength, Nat.add_sub_cancel]

theorem pairs_cons_of_ne {c d : CodePoint} (h : d ≠ c) (text : Text) :
    pairs c (d :: text) = pairs c text := by
  cases text with
  | nil => rfl
  | cons second rest => rw [pairs, if_neg (fun hpair => h hpair.1)]

theorem pairs_append {c : CodePoint} {s t : Text} (h : s.getLast? ≠ some c ∨ t.head? ≠ some c) :
    pairs c (s ++ t) = pairs c s + pairs c t := by
  -- By the hypothesis no pair stands across the two texts.
  fun_induction pairs c s with
  | case1 => simp
  | case2 first =>
      cases t with
      | nil => simp [pairs]
      | cons second rest =>
          have hpair : ¬ (first = c ∧ second = c) := by
            rw [not_and_or]
            simpa using h
          rw [List.singleton_append, pairs, if_neg hpair, Nat.zero_add]
  | case3 first second rest hpair ih =>
      have hrest : List.getLast? rest ≠ some c ∨ t.head? ≠ some c := by
        cases rest with
        | nil => exact .inl (by simp)
        | cons third rest => simpa using h
      rw [List.cons_append, List.cons_append, pairs, if_pos hpair, ih hrest]
      omega
  | case4 first second rest hpair ih =>
      have hrest : List.getLast? (second :: rest) ≠ some c ∨ t.head? ≠ some c := by simpa using h
      rw [List.cons_append, List.cons_append, pairs, if_neg hpair, ← List.cons_append, ih hrest]

theorem pairs_eq_zero_of_not_mem {c : CodePoint} {text : Text} (h : c ∉ text) :
    pairs c text = 0 := by
  induction text with
  | nil => rfl
  | cons d text ih =>
      obtain ⟨hd, htext⟩ : c ≠ d ∧ c ∉ text := by simpa using h
      rw [pairs_cons_of_ne hd.symm, ih htext]

theorem not_infix_of_pairs_eq_zero {c : CodePoint} {text : Text} (h : pairs c text = 0) :
    ¬ [c, c] <:+: text := by
  fun_induction pairs c text with
  | case1 => simp
  | case2 first => exact fun hinfix => absurd hinfix.length_le (by simp)
  | case3 first second rest hpair ih => cases h
  | case4 first second rest hpair ih =>
      intro hinfix
      rcases List.infix_cons_iff.mp hinfix with hprefix | hinfix
      · exact hpair (pair_prefix_iff.mp hprefix)
      · exact ih h hinfix

end Text

namespace Template

theorem occurrences_opening : Text.occurrences "\x7b\x7b" = Text.pairs '\x7b' := by
  funext text
  exact Text.occurrences_pair '\x7b' text

theorem occurrences_closing : Text.occurrences "\x7d\x7d" = Text.pairs '\x7d' := by
  funext text
  exact Text.occurrences_pair '\x7d' text

def literals (template : Template) : List Text := template.holes.map (·.1) ++ [template.rest]

def openingsInside (template : Template) : Nat :=
  (template.holes.map fun hole => Text.occurrences "\x7b\x7b" hole.2).sum

def openingsOutside (template : Template) : Nat :=
  (template.literals.map (Text.occurrences "\x7b\x7b")).sum

def closingsOutside (template : Template) : Nat :=
  (template.literals.map (Text.occurrences "\x7d\x7d")).sum

theorem getLast?_ne_of_not_startsAt {literal body tail : Text} (hbody : IsBody body)
    (hliteral : ∀ i < literal.length, ¬ StartsAt (literal ++ (brace body ++ tail)) i) :
    literal.getLast? ≠ some (.char '\x7b') := by
  intro hlast
  obtain ⟨before, rfl⟩ := List.getLast?_eq_some_iff.mp hlast
  -- With that brace the placeholder would have started one character earlier.
  apply hliteral before.length (by simp)
  have hlonger : IsBody (.char '\x7b' :: body) := ⟨List.cons_ne_nil _ _, by simpa using hbody.2⟩
  exact ⟨.char '\x7b' :: body, tail, hlonger, by simp [brace_append]⟩

theorem pairs_opening_brace_append (body tail : Text) :
    Text.pairs '\x7b' (brace body ++ tail) =
      1 + Text.pairs '\x7b' body + Text.pairs '\x7b' tail := by
  rw [brace_append, Text.pairs, if_pos ⟨rfl, rfl⟩, Text.pairs_append (.inr (by simp)),
    Text.pairs_cons_of_ne (by decide), Text.pairs_cons_of_ne (by decide)]
  omega

theorem pairs_closing_brace_append {body : Text} (hbody : IsBody body) (tail : Text) :
    Text.pairs '\x7d' (brace body ++ tail) = 1 + Text.pairs '\x7d' tail := by
  have hlast : body.getLast? ≠ some (.char '\x7d') := by
    intro hlast
    exact hbody.2 (List.mem_of_getLast? hlast)
  rw [brace_append, Text.pairs_cons_of_ne (by decide), Text.pairs_cons_of_ne (by decide),
    Text.pairs_append (.inl hlast), Text.pairs_eq_zero_of_not_mem hbody.2, Text.pairs,
    if_pos ⟨rfl, rfl⟩]
  omega

theorem IsReading.occurrences_opening {template : Template} {text : Text}
    (h : IsReading template text) :
    Text.occurrences "\x7b\x7b" text =
      template.holes.length + template.openingsInside + template.openingsOutside := by
  obtain ⟨holes, rest⟩ := template
  simp only [openingsInside, openingsOutside, literals, Template.occurrences_opening]
  induction holes generalizing text with
  | nil =>
      obtain ⟨rfl, -⟩ := isReading_nil_iff.mp h
      simp
  | cons hole holes ih =>
      obtain ⟨literal, body⟩ := hole
      obtain ⟨hbody, hliteral, tail, rfl, hholes⟩ := isReading_cons_iff.mp h
      have hlast := getLast?_ne_of_not_startsAt hbody hliteral
      rw [Text.pairs_append (.inl hlast), pairs_opening_brace_append, ih hholes]
      simp only [List.map_cons, List.cons_append, List.sum_cons, List.length_cons]
      omega

theorem IsReading.occurrences_closing {template : Template} {text : Text}
    (h : IsReading template text) :
    Text.occurrences "\x7d\x7d" text = template.holes.length + template.closingsOutside := by
  obtain ⟨holes, rest⟩ := template
  simp only [closingsOutside, literals, Template.occurrences_closing]
  induction holes generalizing text with
  | nil =>
      obtain ⟨rfl, -⟩ := isReading_nil_iff.mp h
      simp
  | cons hole holes ih =>
      obtain ⟨literal, body⟩ := hole
      obtain ⟨hbody, -, tail, rfl, hholes⟩ := isReading_cons_iff.mp h
      have hhead : (brace body ++ tail).head? ≠ some (.char '\x7d') := by simp [brace_append]
      rw [Text.pairs_append (.inr hhead), pairs_closing_brace_append hbody, ih hholes]
      simp only [List.map_cons, List.cons_append, List.sum_cons, List.length_cons]
      omega

def HoldsPair (template : Template) (position : Nat) : Prop :=
  ∃ before literal body after, template.holes = before ++ (literal, body) :: after ∧
    (text ⟨before, []⟩ ++ literal).length ≤ position ∧
    position + 2 ≤ (text ⟨before, []⟩ ++ literal ++ brace body).length

theorem HoldsPair.cons {literal body rest : Text} {holes : List (Text × Text)} {position : Nat}
    (h : HoldsPair ⟨holes, rest⟩ position) :
    HoldsPair ⟨(literal, body) :: holes, rest⟩
      (literal.length + ((brace body).length + position)) := by
  obtain ⟨before, l, b, after, hholes, hstart, hend⟩ := h
  refine ⟨(literal, body) :: before, l, b, after, ?_, ?_, ?_⟩
  · exact congrArg ((literal, body) :: ·) hholes
  · simp only [text_cons, List.length_append] at hstart ⊢
    omega
  · simp only [text_cons, List.length_append] at hend ⊢
    omega

theorem not_prefix_drop_of_literal {literal following : Text}
    (hlast : literal.getLast? ≠ some (.char '\x7b'))
    (hnone : ¬ [.char '\x7b', .char '\x7b'] <:+: literal) {i : Nat} (hi : i < literal.length) :
    ¬ [.char '\x7b', .char '\x7b'] <+: (literal ++ following).drop i := by
  intro hprefix
  rw [List.drop_append_of_le_length hi.le] at hprefix
  have hsplit := List.take_append_drop i literal
  match hdrop : literal.drop i with
  | [] =>
      have hlength := congrArg List.length hdrop
      simp only [List.length_drop, List.length_nil] at hlength
      omega
  | [first] =>
      rw [hdrop, List.singleton_append, List.cons_prefix_cons] at hprefix
      apply hlast
      rw [← hsplit, hdrop, ← hprefix.1]
      simp
  | first :: second :: more =>
      rw [hdrop, List.cons_append, List.cons_append, Text.pair_prefix_iff] at hprefix
      obtain ⟨rfl, rfl⟩ := hprefix
      apply hnone
      refine ⟨literal.take i, more, ?_⟩
      rw [hdrop] at hsplit
      rw [List.append_assoc]
      exact hsplit

theorem IsReading.holdsPair {template : Template} {text : Text} (h : IsReading template text)
    (hnone : ∀ literal ∈ template.literals, ¬ [.char '\x7b', .char '\x7b'] <:+: literal) {i : Nat}
    (hi : [.char '\x7b', .char '\x7b'] <+: text.drop i) : template.HoldsPair i := by
  obtain ⟨holes, rest⟩ := template
  induction holes generalizing text i with
  | nil =>
      obtain ⟨rfl, -⟩ := isReading_nil_iff.mp h
      exact absurd (hi.isInfix.trans (List.drop_suffix i rest).isInfix)
        (hnone rest (by simp [literals]))
  | cons hole holes ih =>
      obtain ⟨literal, body⟩ := hole
      obtain ⟨hbody, hliteral, tail, rfl, hholes⟩ := isReading_cons_iff.mp h
      have hlast := getLast?_ne_of_not_startsAt hbody hliteral
      have hbefore : literal.length ≤ i := by
        by_contra hlt
        exact not_prefix_drop_of_literal hlast (hnone literal (by simp [literals]))
          (Nat.lt_of_not_le hlt) hi
      obtain ⟨j, rfl⟩ := Nat.exists_eq_add_of_le hbefore
      rw [← List.drop_drop, List.drop_left] at hi
      by_cases hbehind : (brace body).length ≤ j
      · obtain ⟨k, rfl⟩ := Nat.exists_eq_add_of_le hbehind
        rw [← List.drop_drop, List.drop_left] at hi
        exact (ih hi hholes fun l hl => hnone l (List.mem_cons_of_mem _ hl)).cons
      · refine ⟨[], literal, body, holes, rfl, by simp [Template.text], ?_⟩
        -- The last character of a placeholder is a closing brace, so no pair starts there.
        have hclosing : j ≠ body.length + 3 := by
          rintro rfl
          have hsplit : brace body ++ tail =
              (.char '\x7b' :: .char '\x7b' :: body ++ [.char '\x7d']) ++ .char '\x7d' :: tail := by
                simp [brace_append]
          rw [hsplit, List.drop_left' (by simp)] at hi
          simp at hi
        have hlength : (brace body).length = body.length + 4 := by simp [brace_eq]
        have hstart : Template.text ⟨[], []⟩ ++ literal = literal := rfl
        rw [hstart, List.length_append]
        omega

end Template

theorem Dialect.exists_of_renderHoles {dialect : Dialect} {context : Value}
    {holes : List (Text × Text)} {rendering : Rendering}
    (h : dialect.renderHoles context holes = .ok rendering) :
    ∃ (values : List (Value × List Warning)) (texts : List Text),
      List.Forall₂ (fun hole value =>
        dialect.evaluate (Expression.parse (Text.strip hole.2)) context = .ok value) holes values ∧
      List.Forall₂ (fun value text =>
        value.1.displayed dialect.runtime = .ok text) values texts := by
  induction holes generalizing rendering with
  | nil => exact ⟨[], [], .nil, .nil⟩
  | cons hole rest ih =>
      obtain ⟨literal, body⟩ := hole
      obtain ⟨first, hfirst, h⟩ := Except.exists_of_bind_eq_ok h
      obtain ⟨others, hothers, -⟩ := Except.exists_of_bind_eq_ok h
      obtain ⟨value, hvalue, hfirst⟩ := Except.exists_of_bind_eq_ok hfirst
      obtain ⟨text, htext, -⟩ := Except.exists_of_bind_eq_ok hfirst
      obtain ⟨values, texts, hvalues, htexts⟩ := ih hothers
      exact ⟨value :: values, text :: texts, .cons hvalue hvalues, .cons htext htexts⟩

theorem Validation.checkDelimiters_eq_nil_iff {text : Text} :
    checkDelimiters text = [] ↔
      Text.occurrences "\x7b\x7b" text = Text.occurrences "\x7d\x7d" text := by
  simp only [checkDelimiters]
  split
  · next heq => exact iff_of_true rfl heq
  · next hne => exact iff_of_false (List.cons_ne_nil _ _) hne

namespace Engine

theorem checkDelimiters_of_isValid {engine : Engine} {expectations : Expectations} {text : Text}
    (h : (engine.validate expectations (some text)).1.isValid = true) :
    Validation.checkDelimiters text = [] := by
  rw [Validation.isValid, List.isEmpty_iff] at h
  by_cases hempty : text = []
  · rw [hempty]
    rfl
  · rw [validate_of_ne_nil hempty] at h
    by_cases hstrictness : expectations.strictness = .permissive
    · simp only [validateText, if_pos hstrictness] at h
      exact (List.append_eq_nil_iff.mp h).2
    · rw [errors_validateText hstrictness] at h
      exact (List.append_eq_nil_iff.mp (List.append_eq_nil_iff.mp h).1).2

/-- In a template that a check finds valid, the double braces that open in the bodies of
placeholders and around the placeholders are as many as those that close around them. -/
theorem openings_eq_closings {engine : Engine} {expectations : Expectations} {text : Text}
    (h : (engine.validate expectations (some text)).1.isValid = true) :
    (Template.ofText text).openingsInside + (Template.ofText text).openingsOutside =
      (Template.ofText text).closingsOutside := by
  have hreading := Template.isReading_ofText text
  have heq := Validation.checkDelimiters_eq_nil_iff.mp (checkDelimiters_of_isValid h)
  rw [hreading.occurrences_opening, hreading.occurrences_closing] at heq
  omega

/-- If a check finds a template valid, and no more double braces close around its placeholders than
open in their bodies, then every double brace that opens is in a placeholder. What is rendered is
then made of the texts of values and of literals in which none opens. -/
theorem openings_in_placeholders {engine : Engine} {expectations : Expectations} {text : Text}
    (hvalid : (engine.validate expectations (some text)).1.isValid = true)
    (hclosings : (Template.ofText text).closingsOutside ≤ (Template.ofText text).openingsInside) :
    (∀ i, [.char '\x7b', .char '\x7b'] <+: text.drop i → (Template.ofText text).HoldsPair i) ∧
      (∀ literal ∈ (Template.ofText text).literals, ¬ [.char '\x7b', .char '\x7b'] <:+: literal) ∧
      ∀ (renderer : Engine) (context : Entries) (rendering : Rendering),
        (renderer.render (.text text) (.map context)).1 = .ok rendering →
        ∃ (values : List (Value × List Warning)) (texts : List Text),
          List.Forall₂ (fun hole value =>
            (renderer.evaluate (Text.strip hole.2) (.map context)).1 = .ok value)
            (Template.ofText text).holes values ∧
          List.Forall₂ (fun value text =>
            value.1.displayed renderer.dialect.runtime = .ok text) values texts ∧
          rendering.output = (Template.ofText text).fill texts := by
  have hreading := Template.isReading_ofText text
  have houtside : (Template.ofText text).openingsOutside = 0 := by
    have hsum := openings_eq_closings hvalid
    omega
  have hliterals : ∀ literal ∈ (Template.ofText text).literals,
      ¬ [.char '\x7b', .char '\x7b'] <:+: literal := by
    intro literal hmem
    apply Text.not_infix_of_pairs_eq_zero
    have hle : Text.pairs '\x7b' literal ≤
        ((Template.ofText text).literals.map (Text.pairs '\x7b')).sum :=
      List.le_sum_of_mem (List.mem_map_of_mem hmem)
    rw [Template.openingsOutside, Template.occurrences_opening] at houtside
    omega
  refine ⟨fun i hi => hreading.holdsPair hliterals hi, hliterals, ?_⟩
  intro renderer context rendering hrendering
  obtain ⟨inside, hinside, -⟩ := Except.exists_of_bind_eq_ok (render_fst .. ▸ hrendering)
  obtain ⟨values, texts, hvalues, htexts⟩ := Dialect.exists_of_renderHoles hinside
  refine ⟨values, texts, by simpa only [evaluate_fst] using hvalues, htexts, ?_⟩
  rw [render_fst, Dialect.renderText, Dialect.renderHoles_of_evaluate hvalues htexts] at hrendering
  obtain rfl := Except.ok.inj hrendering
  rfl

theorem openings_in_placeholders_argument :
    let text : Text := "\x7b\x7ba|replace:'\x7b\x7b':'x'\x7d\x7d \x7d\x7d"
    (({} : Engine).validate {} (some text)).1.isValid = true ∧
      (Template.ofText text).closingsOutside ≤ (Template.ofText text).openingsInside ∧
      (Template.ofText text).HoldsPair 13 := by
  intro text
  have hvalid : (({} : Engine).validate {} (some text)).1.isValid = true := by decide
  have hclosings : (Template.ofText text).closingsOutside ≤
      (Template.ofText text).openingsInside := by decide
  exact ⟨hvalid, hclosings, (openings_in_placeholders hvalid hclosings).1 13 (by decide)⟩

/-- Closing braces may stand before the opening ones that they make up for. -/
theorem openings_outside_placeholders :
    let text : Text := "\x7d\x7d\x7b\x7b"
    (({} : Engine).validate { strictness := .strict } (some text)).1.isValid = true ∧
      (({} : Engine).validate { strictness := .strict } (some text)).1.warnings = [] ∧
      placeholders text = [] ∧ [.char '\x7b', .char '\x7b'] <+: text.drop 2 ∧
      ¬ (Template.ofText text).HoldsPair 2 ∧
      (({} : Engine).render (.text text) (.map [])).1 = .ok { output := text } := by
  intro text
  refine ⟨by decide, rfl, rfl, by decide, ?_, rfl⟩
  rintro ⟨before, literal, body, after, hholes, -, -⟩
  exact absurd hholes (List.append_ne_nil_of_right_ne_nil _ (List.cons_ne_nil _ _)).symm

end Engine

end Clippings
