import Clippings.Template.Basic
import Mathlib.Data.List.TakeWhile
import Mathlib.Logic.ExistsUnique

namespace Clippings.Template

def IsBody (body : Text) : Prop := body ≠ [] ∧ .char '\x7d' ∉ body

def StartsAt (text : Text) (position : Nat) : Prop :=
  ∃ body rest, IsBody body ∧ text.drop position = brace body ++ rest

/-- A template is a reading of a text if the text is put together from its parts, and no placeholder
of the whole text starts in one of its literals. -/
structure IsReading (template : Template) (text : Text) : Prop where
  text_eq : template.text = text
  isBody : ∀ hole ∈ template.holes, IsBody hole.2
  literal : ∀ before literal body after, template.holes = before ++ (literal, body) :: after →
    ∀ i < literal.length, ¬ StartsAt text ((Template.text ⟨before, []⟩).length + i)
  rest : ∀ i < template.rest.length,
    ¬ StartsAt text ((Template.text ⟨template.holes, []⟩).length + i)

theorem brace_append (body rest : Text) :
    brace body ++ rest = .char '\x7b' :: .char '\x7b' ::
      (body ++ .char '\x7d' :: .char '\x7d' :: rest) := by
  simp [brace_eq]

theorem takeWhile_body {body : Text} (hbody : .char '\x7d' ∉ body) (rest : Text) :
    (body ++ .char '\x7d' :: rest).takeWhile (· ≠ .char '\x7d') = body ∧
      (body ++ .char '\x7d' :: rest).dropWhile (· ≠ .char '\x7d') = .char '\x7d' :: rest := by
  have hother : ∀ c ∈ body, decide (c ≠ .char '\x7d') = true := by
    intro c hc
    simpa using ne_of_mem_of_not_mem hc hbody
  rw [List.takeWhile_append_of_pos hother, List.dropWhile_append_of_pos hother]
  simp

theorem body?_brace_append {body : Text} (h : IsBody body) (rest : Text) :
    body? (brace body ++ rest) = some body := by
  obtain ⟨hne, hclosing⟩ := h
  obtain ⟨htake, hdrop⟩ := takeWhile_body hclosing (.char '\x7d' :: rest)
  rw [brace_append]
  simp only [body?, htake, hdrop]
  simpa using hne

theorem isBody_of_body? {text body : Text} (h : body? text = some body) : IsBody body := by
  unfold body? at h
  split at h
  · next inside =>
    simp only at h
    split at h
    · split at h
      · simp at h
      · next hne =>
        obtain rfl := Option.some.inj h
        refine ⟨by simpa using hne, ?_⟩
        intro hmem
        simpa using List.mem_takeWhile_imp hmem
    · simp at h
  · simp at h

theorem body?_eq_some_iff {text body : Text} :
    body? text = some body ↔ IsBody body ∧ ∃ rest, text = brace body ++ rest := by
  constructor
  · intro h
    exact ⟨isBody_of_body? h, eq_of_body? h⟩
  · rintro ⟨hbody, rest, rfl⟩
    exact body?_brace_append hbody rest

theorem startsAt_zero_iff {text : Text} : StartsAt text 0 ↔ ∃ body, body? text = some body := by
  constructor
  · rintro ⟨body, rest, hbody, htext⟩
    exact ⟨body, body?_eq_some_iff.mpr ⟨hbody, rest, htext⟩⟩
  · rintro ⟨body, h⟩
    obtain ⟨hbody, rest, htext⟩ := body?_eq_some_iff.mp h
    exact ⟨body, rest, hbody, htext⟩

theorem brace_append_inj {body other rest tail : Text} (hbody : IsBody body) (hother : IsBody other)
    (h : brace body ++ rest = brace other ++ tail) : body = other ∧ rest = tail := by
  have hsome : some body = some other := by
    rw [← body?_brace_append hbody rest, h, body?_brace_append hother tail]
  obtain rfl := Option.some.inj hsome
  exact ⟨rfl, List.append_cancel_left h⟩

theorem startsAt_append (s t : Text) (i : Nat) :
    StartsAt (s ++ t) (s.length + i) ↔ StartsAt t i := by
  rw [StartsAt, StartsAt, ← List.drop_drop, List.drop_left]

theorem startsAt_append_brace {literal body : Text} (hbody : IsBody body) (rest : Text) :
    StartsAt (literal ++ (brace body ++ rest)) literal.length :=
  ⟨body, rest, hbody, by simp⟩

theorem text_cons (literal body : Text) (holes : List (Text × Text)) (rest : Text) :
    text ⟨(literal, body) :: holes, rest⟩ = literal ++ (brace body ++ text ⟨holes, rest⟩) := by
  simp [text]

theorem isReading_nil_iff {rest text : Text} :
    IsReading ⟨[], rest⟩ text ↔ rest = text ∧ ∀ i < text.length, ¬ StartsAt text i := by
  constructor
  · rintro ⟨htext, -, -, hrest⟩
    obtain rfl : rest = text := htext
    refine ⟨rfl, fun i hi => ?_⟩
    simpa [Template.text] using hrest i hi
  · rintro ⟨rfl, hrest⟩
    refine ⟨rfl, by simp, by simp, fun i hi => ?_⟩
    simpa [Template.text] using hrest i hi

theorem isReading_cons_iff {literal body : Text} {holes : List (Text × Text)} {rest text : Text} :
    IsReading ⟨(literal, body) :: holes, rest⟩ text ↔
      IsBody body ∧ (∀ i < literal.length, ¬ StartsAt text i) ∧
        ∃ tail, text = literal ++ (brace body ++ tail) ∧ IsReading ⟨holes, rest⟩ tail := by
  have hshift : ∀ (before : List (Text × Text)) (tail : Text) (i : Nat),
      StartsAt (literal ++ (brace body ++ tail))
          ((Template.text ⟨(literal, body) :: before, []⟩).length + i) ↔
        StartsAt tail ((Template.text ⟨before, []⟩).length + i) := by
    intro before tail i
    rw [text_cons, List.length_append, Nat.add_assoc, startsAt_append, List.length_append,
      Nat.add_assoc, startsAt_append]
  constructor
  · rintro ⟨rfl, hbodies, hliteral, hrest⟩
    simp only [text_cons literal body holes rest] at hliteral hrest ⊢
    refine ⟨hbodies (literal, body) (by simp), ?_, Template.text ⟨holes, rest⟩, rfl, rfl,
      ?_, ?_, ?_⟩
    · intro i hi
      simpa [Template.text] using hliteral [] literal body holes rfl i hi
    · intro hole hmem
      exact hbodies hole (by simp [hmem])
    · intro before l b after hholes i hi
      rw [← hshift]
      exact hliteral ((literal, body) :: before) l b after (congrArg _ hholes) i hi
    · intro i hi
      rw [← hshift]
      exact hrest i hi
  · rintro ⟨hbody, hliteral, tail, rfl, rfl, hbodies, hliterals, hrest⟩
    refine ⟨text_cons literal body holes rest, ?_, ?_, ?_⟩
    · intro hole hmem
      rcases List.mem_cons.mp hmem with rfl | hmem
      · exact hbody
      · exact hbodies hole hmem
    · intro before l b after hholes i hi
      cases before with
      | nil =>
          obtain ⟨hfirst, -⟩ := List.cons.inj hholes
          obtain ⟨rfl, rfl⟩ := Prod.mk.inj hfirst
          simpa [Template.text] using hliteral i hi
      | cons first before =>
          obtain ⟨rfl, htail⟩ := List.cons.inj hholes
          rw [hshift]
          exact hliterals before l b after htail i hi
    · intro i hi
      rw [hshift]
      exact hrest i hi

theorem IsReading.unique {template other : Template} {text : Text} (h : IsReading template text)
    (hother : IsReading other text) : template = other := by
  obtain ⟨holes, rest⟩ := template
  obtain ⟨otherHoles, otherRest⟩ := other
  induction holes generalizing text otherHoles with
  | nil =>
      obtain ⟨rfl, hnone⟩ := isReading_nil_iff.mp h
      cases otherHoles with
      | nil =>
          obtain ⟨rfl, -⟩ := isReading_nil_iff.mp hother
          rfl
      | cons hole otherHoles =>
          obtain ⟨hbody, -, tail, rfl, -⟩ := isReading_cons_iff.mp hother
          exact absurd (startsAt_append_brace hbody tail) (hnone _ (by simp [brace_append]))
  | cons hole holes ih =>
      obtain ⟨literal, body⟩ := hole
      obtain ⟨hbody, hliteral, tail, rfl, hholes⟩ := isReading_cons_iff.mp h
      cases otherHoles with
      | nil =>
          obtain ⟨-, hnone⟩ := isReading_nil_iff.mp hother
          exact absurd (startsAt_append_brace hbody tail) (hnone _ (by simp [brace_append]))
      | cons hole otherHoles =>
          obtain ⟨otherLiteral, otherBody⟩ := hole
          obtain ⟨hotherBody, hotherLiteral, otherTail, htext, hotherHoles⟩ :=
            isReading_cons_iff.mp hother
          have hlength : literal.length = otherLiteral.length := by
            rcases Nat.lt_trichotomy literal.length otherLiteral.length with hlt | heq | hgt
            · exact absurd (startsAt_append_brace hbody tail) (hotherLiteral _ hlt)
            · exact heq
            · rw [htext] at hliteral
              exact absurd (startsAt_append_brace hotherBody otherTail) (hliteral _ hgt)
          obtain ⟨rfl, hbraces⟩ := List.append_inj htext hlength
          obtain ⟨rfl, rfl⟩ := brace_append_inj hbody hotherBody hbraces
          have hsame := ih hholes otherHoles hotherHoles
          simp only [Template.mk.injEq] at hsame ⊢
          exact ⟨by rw [hsame.1], hsame.2⟩

theorem IsReading.consChar {template : Template} {c : CodePoint} {text : Text}
    (h : IsReading template text) (hnone : body? (c :: text) = none) :
    IsReading (consChar c template) (c :: text) := by
  have hstart : ¬ StartsAt (c :: text) 0 := by
    rw [startsAt_zero_iff, hnone]
    simp
  have hshift : ∀ (limit : Nat), (∀ i < limit, ¬ StartsAt text i) →
      ∀ i < limit + 1, ¬ StartsAt (c :: text) i := by
    intro limit hlimit i hi
    cases i with
    | zero => exact hstart
    | succ i =>
        rw [Nat.add_comm, ← List.length_singleton (a := c), ← List.singleton_append,
          startsAt_append]
        exact hlimit i (by omega)
  obtain ⟨holes, rest⟩ := template
  cases holes with
  | nil =>
      obtain ⟨rfl, hrest⟩ := isReading_nil_iff.mp h
      exact isReading_nil_iff.mpr ⟨rfl, hshift _ hrest⟩
  | cons hole holes =>
      obtain ⟨hbody, hliteral, tail, rfl, hholes⟩ := isReading_cons_iff.mp h
      exact isReading_cons_iff.mpr ⟨hbody, hshift _ hliteral, tail, rfl, hholes⟩

theorem IsReading.consHole {template : Template} {body tail : Text} (h : IsReading template tail)
    (hbody : IsBody body) : IsReading (consHole body template) (brace body ++ tail) :=
  isReading_cons_iff.mpr ⟨hbody, by simp, tail, rfl, h⟩

theorem isReading_ofTextFrom (skip : Nat) (text : Text) :
    IsReading (ofTextFrom skip text) (text.drop skip) := by
  fun_induction ofTextFrom skip text with
  | case1 => exact isReading_nil_iff.mpr ⟨by simp, by simp⟩
  | case2 skip c rest ih => exact ih
  | case3 c rest body hbody ih =>
      obtain ⟨tail, htext⟩ := eq_of_body? hbody
      have hdrop : rest.drop (body.length + 3) = tail := by
        rw [brace_append] at htext
        obtain ⟨-, hrest⟩ := List.cons.inj htext
        have hlist : rest = (.char '\x7b' :: (body ++ [.char '\x7d', .char '\x7d'])) ++
          tail := by simp [hrest]
        rw [hlist, List.drop_left' (by simp)]
      rw [hdrop] at ih
      rw [List.drop_zero, htext]
      exact ih.consHole (isBody_of_body? hbody)
  | case4 c rest hnone ih => exact ih.consChar hnone

theorem isReading_ofText (text : Text) : IsReading (ofText text) text := isReading_ofTextFrom 0 text

theorem IsReading.eq_ofText {template : Template} {text : Text} (h : IsReading template text) :
    template = ofText text :=
  h.unique (isReading_ofText text)

theorem ofText_brace {body : Text} (h : IsBody body) :
    ofText (brace body) = { holes := [([], body)], rest := [] } := by
  have hreading : IsReading (consHole body (ofText [])) (brace body ++ []) :=
    (isReading_ofText []).consHole h
  rw [List.append_nil] at hreading
  exact hreading.eq_ofText.symm

theorem existsUnique_isReading (text : Text) : ∃! template, IsReading template text :=
  ⟨ofText text, isReading_ofText text, fun _ h => h.eq_ofText⟩

end Clippings.Template
