import Clippings.Text.Blank
/-!
Templates: literal text with placeholders between double braces. The leftmost placeholder is taken
first, and everything that is no placeholder is literal (`text_ofText`).
-/

namespace Clippings

/-- A template: placeholders, each with the literal text before it, and the text behind them. -/
structure Template where
  /-- The literal texts and the bodies of the placeholders behind them. -/
  holes : List (Text × Text) := []
  rest : Text := []
  deriving DecidableEq, Repr

namespace Template

def brace (body : Text) : Text := "\x7b\x7b" ++ body ++ "\x7d\x7d"

def text (template : Template) : Text :=
  template.holes.flatMap (fun (literal, body) => literal ++ brace body) ++ template.rest

def consChar (c : CodePoint) (template : Template) : Template :=
  match template.holes with
  | [] => { template with rest := c :: template.rest }
  | (literal, body) :: holes => { template with holes := (c :: literal, body) :: holes }

def consHole (body : Text) (template : Template) : Template :=
  { template with holes := ([], body) :: template.holes }

/-- The body of the placeholder at the start of a text: it is not empty and has no closing
brace. -/
def body? : Text → Option Text
  | '\x7b' :: '\x7b' :: inside =>
    let body := inside.takeWhile (· ≠ .char '\x7d')
    match inside.dropWhile (· ≠ .char '\x7d') with
    | '\x7d' :: '\x7d' :: _ => if body.isEmpty then none else some body
    | _ => none
  | _ => none

/-- Reads a template; the number counts the characters of a placeholder that are still to be passed
over. -/
def ofTextFrom : Nat → Text → Template
  | _, [] => {}
  | skip + 1, _ :: rest => ofTextFrom skip rest
  | 0, c :: rest =>
    match body? (c :: rest) with
    | some body => consHole body (ofTextFrom (body.length + 3) rest)
    | none => consChar c (ofTextFrom 0 rest)

def ofText (text : Text) : Template := ofTextFrom 0 text

def bodies (template : Template) : List Text := template.holes.map fun (_, body) => Text.strip body

theorem text_consChar (c : CodePoint) (template : Template) :
    (consChar c template).text = c :: template.text := by
  match template with
  | ⟨[], rest⟩ => rfl
  | ⟨(literal, body) :: holes, rest⟩ => rfl

theorem text_consHole (body : Text) (template : Template) :
    (consHole body template).text = brace body ++ template.text := by
  simp [consHole, text]

theorem brace_eq (body : Text) :
    brace body = .char '\x7b' :: .char '\x7b' :: (body ++ [.char '\x7d', .char '\x7d']) := rfl

theorem eq_of_body? {text body : Text} (h : body? text = some body) :
    ∃ rest, text = brace body ++ rest := by
  unfold body? at h
  split at h
  · next inside =>
    simp only at h
    split at h
    · next rest hr =>
      split at h
      · simp at h
      · obtain rfl : List.takeWhile (· ≠ .char '\x7d') inside = body := by simpa using h
        refine ⟨rest, ?_⟩
        have := List.takeWhile_append_dropWhile (p := (· ≠ .char '\x7d')) (l := inside)
        rw [hr] at this
        rw [brace_eq]
        simpa using this.symm
    · simp at h
  · simp at h

theorem text_ofTextFrom (skip : Nat) (text : Text) :
    (ofTextFrom skip text).text = text.drop skip := by
  fun_induction ofTextFrom skip text with
  | case1 => simp [Template.text]
  | case2 skip c rest ih => simpa using ih
  | case3 c rest body hb ih =>
    obtain ⟨tail, ht⟩ := eq_of_body? hb
    rw [brace_eq] at ht
    obtain ⟨rfl, hl⟩ := List.cons.inj ht
    have hl : rest = (.char '\x7b' :: (body ++ [.char '\x7d', .char '\x7d'])) ++ tail := hl
    rw [text_consHole, ih, hl, List.drop_left' (by simp), brace_eq]
    rfl
  | case4 c rest hb ih => rw [text_consChar, ih]; rfl

theorem text_ofText (text : Text) : (ofText text).text = text := text_ofTextFrom 0 text

end Template

end Clippings
