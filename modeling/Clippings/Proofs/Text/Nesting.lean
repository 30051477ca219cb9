import Clippings.Text.Basic
import Mathlib.Data.List.Infix

namespace Clippings.Text

/-- Whether the parentheses of a text come in pairs, one inside or behind the other. -/
inductive WellNested : Text → Prop
  | nil : WellNested []
  | cons {c : CodePoint} {rest : Text} (hopening : c ≠ '(') (hclosing : c ≠ ')') :
      WellNested rest → WellNested (c :: rest)
  | pair {inside rest : Text} : WellNested inside → WellNested rest →
      WellNested (.char '(' :: (inside ++ .char ')' :: rest))

def excess (text : Text) : Int := text.count (.char '(') - text.count (.char ')')

@[simp] theorem excess_nil : excess [] = 0 := rfl

@[simp] theorem excess_opening (rest : Text) : excess (.char '(' :: rest) = 1 + excess rest := by
  simp [excess]
  omega

@[simp] theorem excess_closing (rest : Text) : excess (.char ')' :: rest) = excess rest - 1 := by
  simp [excess]
  omega

@[simp] theorem excess_cons_of_ne {c : CodePoint} (hopening : c ≠ '(') (hclosing : c ≠ ')')
    (rest : Text) : excess (c :: rest) = excess rest := by
  simp [excess, hopening, hclosing]

@[simp] theorem excess_append (s t : Text) : excess (s ++ t) = excess s + excess t := by
  simp [excess]
  omega

theorem WellNested.excess_eq_zero {text : Text} (h : WellNested text) : excess text = 0 := by
  induction h with
  | nil => rfl
  | cons hopening hclosing _ ih => rw [excess_cons_of_ne hopening hclosing, ih]
  | pair _ _ ihinside ihrest => simp [ihinside, ihrest]

theorem WellNested.excess_nonneg {text front : Text} (h : WellNested text)
    (hfront : front <+: text) : 0 ≤ excess front := by
  induction h generalizing front with
  | nil => simp [List.prefix_nil.mp hfront]
  | cons hopening hclosing _ ih =>
      rcases List.prefix_cons_iff.mp hfront with rfl | ⟨start, rfl, hstart⟩
      · simp
      · rw [excess_cons_of_ne hopening hclosing]
        exact ih hstart
  | @pair inside rest hinside _ ihinside ihrest =>
      rcases List.prefix_cons_iff.mp hfront with rfl | ⟨start, rfl, hstart⟩
      · simp
      · rw [excess_opening]
        rcases List.prefix_or_prefix_of_prefix hstart (List.prefix_append inside _) with
          hshort | ⟨behind, rfl⟩
        · have := ihinside hshort
          omega
        · rw [List.prefix_append_right_inj] at hstart
          rw [excess_append, hinside.excess_eq_zero]
          rcases List.prefix_cons_iff.mp hstart with rfl | ⟨later, rfl, hlater⟩
          · simp
          · have := ihrest hlater
            rw [excess_closing]
            omega

/-- Whether a text closes some parentheses that were opened before it, and is well nested between
them. -/
def Closes : Nat → Text → Prop
  | 0, text => WellNested text
  | n + 1, text =>
    ∃ inside rest, text = inside ++ .char ')' :: rest ∧ WellNested inside ∧ Closes n rest

theorem Closes.append {n : Nat} {lead text : Text} (h : Closes n text)
    (hlead : ∀ t, WellNested t → WellNested (lead ++ t)) : Closes n (lead ++ text) := by
  cases n with
  | zero => exact hlead text h
  | succ n =>
      obtain ⟨inside, rest, rfl, hinside, hrest⟩ := h
      exact ⟨lead ++ inside, rest, (List.append_assoc lead inside _).symm, hlead inside hinside,
        hrest⟩

theorem closes_of_excess {n : Nat} {text : Text} (hend : n + excess text = 0)
    (hfront : ∀ front, front <+: text → 0 ≤ n + excess front) : Closes n text := by
  induction text generalizing n with
  | nil =>
      obtain rfl : n = 0 := by simpa using hend
      exact .nil
  | cons c rest ih =>
      have hstart : ∀ front, front <+: rest → 0 ≤ n + excess (c :: front) := fun front hrest =>
        hfront (c :: front) (List.cons_prefix_cons.mpr ⟨rfl, hrest⟩)
      by_cases hopening : c = '('
      · subst hopening
        -- The parenthesis is one more to be closed, and its partner is the first one that is.
        have hrest : Closes (n + 1) rest := by
          apply ih
          · rw [excess_opening] at hend
            omega
          · intro front hprefix
            have := hstart front hprefix
            rw [excess_opening] at this
            omega
        obtain ⟨inside, others, rfl, hinside, hothers⟩ := hrest
        have hpair : Closes n ((.char '(' :: (inside ++ [.char ')'])) ++ others) :=
          hothers.append fun t ht => by simpa using WellNested.pair hinside ht
        simpa using hpair
      · by_cases hclosing : c = .char ')'
        · subst hclosing
          have hone := hstart [] List.nil_prefix
          rw [excess_closing, excess_nil] at hone
          obtain ⟨m, rfl⟩ : ∃ m, n = m + 1 := ⟨n - 1, by omega⟩
          have hrest : Closes m rest := by
            apply ih
            · rw [excess_closing] at hend
              omega
            · intro front hprefix
              have := hstart front hprefix
              rw [excess_closing] at this
              omega
          exact ⟨[], rest, rfl, .nil, hrest⟩
        · have hrest : Closes n rest := by
            apply ih
            · rwa [excess_cons_of_ne hopening hclosing] at hend
            · intro front hprefix
              have := hstart front hprefix
              rwa [excess_cons_of_ne hopening hclosing] at this
          have hlead : Closes n ([c] ++ rest) := hrest.append fun t ht => .cons hopening hclosing ht
          exact hlead

theorem wellNested_iff {text : Text} :
    WellNested text ↔ excess text = 0 ∧ ∀ front, front <+: text → 0 ≤ excess front := by
  constructor
  · intro h
    exact ⟨h.excess_eq_zero, fun _ hfront => h.excess_nonneg hfront⟩
  · rintro ⟨hend, hfront⟩
    have hcloses : Closes 0 text := closes_of_excess (by simpa using hend) (by simpa using hfront)
    exact hcloses

end Clippings.Text
