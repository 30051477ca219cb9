import Clippings.Number.Binary64
import Mathlib.Algebra.Order.Field.Power
import Mathlib.Tactic.Linarith
import Mathlib.Tactic.NormNum
import Mathlib.Tactic.Positivity

namespace Clippings.Binary64

def IsRepresentable : Binary64 → Prop
  | nan | infinite _ => True
  | finite _ significand exponent =>
      significand < 2 ^ 53 ∧ leastExponent ≤ exponent ∧ exponent ≤ greatestExponent

theorem isRepresentable_zero (negative : Bool) : (finite negative 0 0).IsRepresentable := by
  refine ⟨by norm_num, ?_, ?_⟩
  · decide
  · decide

theorem scaled_snd_pos (numerator : Nat) {denominator : Nat} (h : 0 < denominator)
    (exponent : Int) : 0 < (scaled numerator denominator exponent).2 := by
  rw [scaled]
  split
  · exact h
  · exact Nat.mul_pos h (Nat.two_pow_pos _)

theorem scaled_lt_iff (numerator denominator bits : Nat) (exponent : Int) :
    (scaled numerator denominator exponent).1 <
        (scaled numerator denominator exponent).2 * 2 ^ bits ↔
      (numerator : ℚ) < denominator * 2 ^ (exponent + bits) := by
  rw [scaled]
  split
  · next hneg =>
    obtain ⟨m, rfl⟩ : ∃ m : Nat, exponent = -m := ⟨(-exponent).toNat, by omega⟩
    have hpow : (0 : ℚ) < 2 ^ m := by positivity
    have hexponent : (2 : ℚ) ^ (-(m : Int) + bits) = 2 ^ bits / 2 ^ m := by
      rw [zpow_add₀ (by norm_num), zpow_neg, zpow_natCast, zpow_natCast, mul_comm, div_eq_mul_inv]
    have hcast : numerator * twoTo (-(-(m : Int))).toNat < denominator * 2 ^ bits ↔
        (numerator : ℚ) * 2 ^ m < denominator * 2 ^ bits := by
      have htoNat : (-(-(m : Int))).toNat = m := by omega
      rw [htoNat]
      exact_mod_cast Iff.rfl
    rw [hcast, hexponent, ← mul_div_assoc, lt_div_iff₀ hpow]
  · next hpos =>
    obtain ⟨m, rfl⟩ : ∃ m : Nat, exponent = m := ⟨exponent.toNat, by omega⟩
    have hexponent : (2 : ℚ) ^ ((m : Int) + bits) = 2 ^ m * 2 ^ bits := by
      rw [zpow_add₀ (by norm_num), zpow_natCast, zpow_natCast]
    rw [hexponent, ← mul_assoc]
    exact_mod_cast Iff.rfl

theorem scaled_exponentOf_lt (numerator : Nat) {denominator : Nat} (hden : 0 < denominator) :
    (scaled numerator denominator (exponentOf numerator denominator)).1 <
      (scaled numerator denominator (exponentOf numerator denominator)).2 * 2 ^ 53 := by
  rw [scaled_lt_iff]
  have hdenQ : (0 : ℚ) < denominator := by exact_mod_cast hden
  have hmono : ∀ e f : Int, e ≤ f → (numerator : ℚ) < denominator * 2 ^ e →
      (numerator : ℚ) < denominator * 2 ^ f := by
    intro e f hef hlt
    have hpow : (2 : ℚ) ^ e ≤ 2 ^ f := zpow_le_zpow_right₀ (by norm_num) hef
    calc (numerator : ℚ) < denominator * 2 ^ e := hlt
      _ ≤ denominator * 2 ^ f := mul_le_mul_of_nonneg_left hpow hdenQ.le
  have hguess : (numerator : ℚ) <
      denominator * 2 ^ ((numerator.log2 : Int) - denominator.log2 + 1) := by
    have hnum : (numerator : ℚ) < 2 ^ (numerator.log2 + 1) := by
      exact_mod_cast Nat.lt_log2_self
    have hlow : (2 : ℚ) ^ denominator.log2 ≤ denominator := by
      exact_mod_cast Nat.log2_self_le hden.ne'
    have hsplit : (2 : ℚ) ^ (numerator.log2 + 1) =
        2 ^ denominator.log2 * 2 ^ ((numerator.log2 : Int) - denominator.log2 + 1) := by
      rw [← zpow_natCast, ← zpow_natCast, ← zpow_add₀ (by norm_num)]
      congr 1
      push_cast
      omega
    calc (numerator : ℚ) < 2 ^ (numerator.log2 + 1) := hnum
      _ = 2 ^ denominator.log2 * 2 ^ ((numerator.log2 : Int) - denominator.log2 + 1) := hsplit
      _ ≤ denominator * 2 ^ ((numerator.log2 : Int) - denominator.log2 + 1) :=
        mul_le_mul_of_nonneg_right hlow (by positivity)
  simp only [exponentOf]
  split
  · next hsmall =>
    -- One bit less than guessed was found, so the next lower exponent still has room.
    have hdiv := (Nat.div_lt_iff_lt_mul (scaled_snd_pos numerator hden _)).mp hsmall
    rw [Nat.mul_comm] at hdiv
    have hlt := (scaled_lt_iff numerator denominator 52 _).mp hdiv
    exact hmono _ _ (by push_cast; omega) hlt
  · exact hmono _ _ (by push_cast; omega) hguess

theorem roundHalfEven_le (numerator denominator : Nat) :
    roundHalfEven numerator denominator ≤ numerator / denominator + 1 := by
  simp only [roundHalfEven]
  split <;> omega

theorem leastExponent_le_exponentOf (numerator denominator : Nat) :
    leastExponent ≤ exponentOf numerator denominator := by
  simp only [exponentOf]
  exact le_max_left _ _

theorem isRepresentable_ofRatio (negative : Bool) (numerator : Nat) {denominator : Nat}
    (hden : 0 < denominator) : (ofRatio negative numerator denominator).IsRepresentable := by
  have hlt := scaled_exponentOf_lt numerator hden
  have hpos := scaled_snd_pos numerator hden (exponentOf numerator denominator)
  have hleast := leastExponent_le_exponentOf numerator denominator
  rw [ofRatio]
  split
  · exact isRepresentable_zero negative
  · simp only
    generalize exponentOf numerator denominator = exponent at hlt hpos hleast ⊢
    generalize (scaled numerator denominator exponent).1 = n at hlt ⊢
    generalize (scaled numerator denominator exponent).2 = d at hlt hpos ⊢
    have hbits : roundHalfEven n d ≤ 2 ^ 53 := by
      have hdiv := (Nat.div_lt_iff_lt_mul hpos).mpr (Nat.mul_comm d (2 ^ 53) ▸ hlt)
      have hround := roundHalfEven_le n d
      omega
    -- Rounding up to 54 bits gives a power of two, which the next exponent holds.
    obtain ⟨significand, exponent, hpair, hsignificand, hexponent⟩ :
        ∃ (s : Nat) (e : Int),
          (if roundHalfEven n d = twoTo 53 then (twoTo 52, exponent + 1)
            else (roundHalfEven n d, exponent)) = (s, e) ∧ s < 2 ^ 53 ∧ leastExponent ≤ e := by
      split
      · exact ⟨twoTo 52, exponent + 1, rfl, by decide, by omega⟩
      · next hne =>
        have hne53 : roundHalfEven n d ≠ 2 ^ 53 := hne
        exact ⟨roundHalfEven n d, exponent, rfl, by omega, hleast⟩
    simp only [hpair]
    split
    · exact isRepresentable_zero negative
    · split
      · trivial
      · next hgreatest => exact ⟨hsignificand, hexponent, by omega⟩

end Clippings.Binary64
