import Clippings.Text.Basic

namespace Clippings.Text

/-- How many characters two texts have in common at their starts. -/
def commonStart : Text → Text → Nat
  | c :: s, d :: t => if c = d then commonStart s t + 1 else 0
  | _, _ => 0

/-- The longest common piece that starts at one place of a text and anywhere in another: where it
starts there, and its length. The first of several counts. -/
def longestAt (s : Text) (place : Nat) : Text → Nat × Nat
  | [] => (place, 0)
  | d :: t =>
    let here := commonStart s (d :: t)
    let later := longestAt s (place + 1) t
    if later.2 ≤ here then (place, here) else later

/-- The longest common piece of two texts: where it starts in both, and its length. -/
def longestCommon (place : Nat) (t : Text) : Text → Nat × Nat × Nat
  | [] => (place, 0, 0)
  | c :: s =>
    let (there, here) := longestAt (c :: s) 0 t
    let later := longestCommon (place + 1) t s
    if later.2.2 ≤ here then (place, there, here) else later

/-- How many characters lie in common pieces; the number bounds how many pieces are found. -/
def commonCount : Nat → Text → Text → Nat
  | 0, _, _ => 0
  | fuel + 1, s, t =>
    let (i, j, length) := longestCommon 0 t s
    if length = 0 then 0
    else
      commonCount fuel (s.take i) (t.take j) + length +
        commonCount fuel (s.drop (i + length)) (t.drop (j + length))

/-- Whether at least three fifths of the characters of two texts lie in common pieces. -/
def areSimilar (s t : Text) : Bool :=
  3 * (s.length + t.length) ≤ 10 * commonCount s.length s t

end Clippings.Text
