import Clippings.Proofs.Number.Limits

namespace Clippings.Binary64

def IsWhole (n : Int) : Prop :=
  ∃ significand exponent : Nat,
    significand < 2 ^ 53 ∧ exponent ≤ 971 ∧ n.natAbs = significand * 2 ^ exponent

structure IsNearest (n nearest : Int) : Prop where
  whole : IsWhole nearest
  le : ∀ other, IsWhole other → (n - nearest).natAbs ≤ (n - other).natAbs

theorem isWhole_of_natAbs_le {n : Int} (h : n.natAbs ≤ 2 ^ 53) : IsWhole n := by
  rcases h.lt_or_eq with hlt | heq
  · exact ⟨n.natAbs, 0, hlt, by decide, by simp⟩
  · exact ⟨2 ^ 52, 1, by decide, by decide, heq⟩

theorem IsWhole.isNearest {n : Int} (h : IsWhole n) : IsNearest n n where
  whole := h
  le := by simp

theorem IsNearest.eq_of_isWhole {n nearest : Int} (h : IsNearest n nearest) (hn : IsWhole n) :
    nearest = n := by
  have hle := h.le n hn
  omega

theorem IsWhole.natAbs_lt {n : Int} (h : IsWhole n) : n.natAbs < 2 ^ (53 + 971) := by
  obtain ⟨significand, exponent, hsignificand, hexponent, heq⟩ := h
  have hpow : 2 ^ exponent ≤ 2 ^ 971 := pow_le_pow_right₀ (by decide) hexponent
  calc
    n.natAbs = significand * 2 ^ exponent := heq
    _ < 2 ^ 53 * 2 ^ 971 :=
      Nat.mul_lt_mul_of_lt_of_le hsignificand hpow (pow_pos (by decide) 971)
    _ = 2 ^ (53 + 971) := (pow_add 2 53 971).symm

theorem isWhole_of_toInt? {x : Binary64} (h : x.IsRepresentable) {n : Int}
    (hn : x.toInt? = some n) : IsWhole n := by
  cases x with
  | nan => cases hn
  | infinite negative => cases hn
  | finite negative significand exponent =>
      obtain ⟨hsignificand, -, hgreatest⟩ := h
      have hle : exponent ≤ 971 := hgreatest
      have htruncate : (finite negative significand exponent).truncate? = some n := by
        rw [toInt?] at hn
        split at hn
        · exact hn
        · cases hn
      have hmagnitude : n.natAbs = if exponent < 0 then significand / twoTo (-exponent).toNat
          else significand * twoTo exponent.toNat := by
        simp only [truncate?, Option.some.injEq] at htruncate
        rw [← htruncate]
        cases negative with
        | false => exact Int.natAbs_natCast _
        | true => exact (Int.natAbs_neg _).trans (Int.natAbs_natCast _)
      split at hmagnitude
      · refine ⟨n.natAbs, 0, ?_, by decide, by simp⟩
        rw [hmagnitude]
        exact (Nat.div_le_self _ _).trans_lt hsignificand
      · exact ⟨significand, exponent.toNat, hsignificand, by omega, hmagnitude⟩

theorem roundHalfEven_nearest (n : Nat) {d : Nat} (hd : 0 < d) (j : Nat) :
    ((n : Int) - (roundHalfEven n d * d : Nat)).natAbs ≤ ((n : Int) - (j * d : Nat)).natAbs := by
  have hsplit := Nat.div_add_mod' n d
  have hlt := Nat.mod_lt n hd
  have hside : j * d ≤ n / d * d ∨ (n / d + 1) * d ≤ j * d := by
    rcases Nat.lt_or_ge (n / d) j with hlow | hhigh
    · exact .inr (Nat.mul_le_mul_right d hlow)
    · exact .inl (Nat.mul_le_mul_right d hhigh)
  simp only [roundHalfEven]
  generalize j * d = other at hside ⊢
  rw [Nat.add_mul, Nat.one_mul] at hside
  split
  · next hup =>
    rw [Nat.add_mul, Nat.one_mul]
    have htwice : d ≤ 2 * (n % d) := by
      simp only [Bool.or_eq_true, decide_eq_true_eq, Bool.and_eq_true] at hup
      omega
    generalize n / d * d = low at hsplit hside ⊢
    omega
  · next hdown =>
    have htwice : 2 * (n % d) ≤ d := by
      simp only [Bool.or_eq_true, decide_eq_true_eq, Bool.and_eq_true, not_or] at hdown
      omega
    generalize n / d * d = low at hsplit hside ⊢
    omega

theorem le_roundHalfEven (n d : Nat) : n / d ≤ roundHalfEven n d := by
  simp only [roundHalfEven]
  split <;> omega

theorem roundHalfEven_one (n : Nat) : roundHalfEven n 1 = n := by
  simp [roundHalfEven, Nat.mod_one]

/-- The distance between neighbours of a positive integer in the format is a power of two; this is
its exponent, and the nearest multiple of that power. -/
def gridExponent (n : Nat) : Nat := n.log2 - 52

def nearestWhole (n : Nat) : Nat := roundHalfEven n (2 ^ gridExponent n) * 2 ^ gridExponent n

theorem exponentOf_one {n : Nat} (hn : n ≠ 0) : exponentOf n 1 = (n.log2 : Int) - 52 := by
  have hlow : ¬ (scaled n 1 ((n.log2 : Int) - 52)).1 <
      (scaled n 1 ((n.log2 : Int) - 52)).2 * 2 ^ 52 := by
    rw [scaled_lt_iff, not_lt]
    have hlog : (2 : ℚ) ^ n.log2 ≤ n := by exact_mod_cast Nat.log2_self_le hn
    simpa using hlog
  have hdiv : ¬ (scaled n 1 ((n.log2 : Int) - 52)).1 / (scaled n 1 ((n.log2 : Int) - 52)).2 <
      twoTo 52 := by
    rw [Nat.div_lt_iff_lt_mul (scaled_snd_pos n (by decide) _), Nat.mul_comm]
    exact hlow
  have hone : (1 : Nat).log2 = 0 := rfl
  simp only [exponentOf, hone, Nat.cast_zero, sub_zero, if_neg hdiv]
  exact max_eq_right (by simp only [leastExponent]; omega)

def signed (negative : Bool) (n : Nat) : Int := if negative then -n else n

theorem toInt?_finite_natCast (negative : Bool) (significand exponent : Nat) :
    (finite negative significand exponent).toInt? =
      some (signed negative (significand * 2 ^ exponent)) := by
  have hinteger : (finite negative significand exponent).isInteger = true := by
    simp [isInteger]
  have hnonneg : ¬ (exponent : Int) < 0 := by omega
  rw [toInt?, if_pos hinteger, truncate?, if_neg hnonneg]
  rfl

theorem toInt?_finite_neg (negative : Bool) (n : Nat) {m : Nat} (hm : 0 < m) :
    (finite negative (n * 2 ^ m) (-(m : Int))).toInt? =
      some (signed negative n) := by
  have hpower : twoTo (-(-(m : Int))).toNat = 2 ^ m := by
    rw [Int.neg_neg, Int.toNat_natCast]
    rfl
  have hinteger : (finite negative (n * 2 ^ m) (-(m : Int))).isInteger = true := by
    have hrest : n * 2 ^ m % twoTo (-(-(m : Int))).toNat = 0 := by
      rw [hpower, Nat.mul_mod_left]
    simp only [isInteger, hrest, decide_true, Bool.or_true]
  have hneg : -(m : Int) < 0 := by omega
  rw [toInt?, if_pos hinteger, truncate?, if_pos hneg, hpower,
    Nat.mul_div_cancel _ (Nat.two_pow_pos m)]
  rfl

theorem ofRatio_one_of_small (negative : Bool) {n : Nat} (hn : n ≠ 0) (hsmall : n.log2 < 52) :
    (ofRatio negative n 1).toInt? = some (signed negative n) := by
  obtain ⟨m, hm⟩ : ∃ m, n.log2 + m = 52 := ⟨52 - n.log2, by omega⟩
  have hexponent : exponentOf n 1 = -(m : Int) := by
    rw [exponentOf_one hn]
    omega
  have hscaled : scaled n 1 (-(m : Int)) = (n * 2 ^ m, 1) := by
    rw [scaled, if_pos (by omega), Int.neg_neg, Int.toNat_natCast]
    rfl
  have hbits : n * 2 ^ m < 2 ^ 53 := by
    have hlt := Nat.mul_lt_mul_of_pos_right (@Nat.lt_log2_self n) (Nat.two_pow_pos m)
    rwa [← Nat.pow_add, show n.log2 + 1 + m = 53 by omega] at hlt
  have hcarry : n * 2 ^ m ≠ twoTo 53 := hbits.ne
  have hpos : n * 2 ^ m ≠ 0 := Nat.mul_ne_zero hn (Nat.two_pow_pos m).ne'
  have hgreatest : ¬ greatestExponent < -(m : Int) := by
    simp only [greatestExponent]
    omega
  simp only [ofRatio, if_neg hn, hexponent, hscaled, roundHalfEven_one, if_neg hcarry, if_neg hpos,
    if_neg hgreatest]
  exact toInt?_finite_neg negative n (by omega)

theorem roundHalfEven_bounds {n : Nat} (hn : n ≠ 0) (hlarge : 52 ≤ n.log2) :
    2 ^ 52 ≤ roundHalfEven n (2 ^ gridExponent n) ∧
      roundHalfEven n (2 ^ gridExponent n) ≤ 2 ^ 53 := by
  have hgrid : 52 + gridExponent n = n.log2 := by
    rw [gridExponent]
    omega
  have hlow : 2 ^ 52 ≤ n / 2 ^ gridExponent n := by
    rw [Nat.le_div_iff_mul_le (Nat.two_pow_pos _), ← Nat.pow_add, hgrid]
    exact Nat.log2_self_le hn
  have hhigh : n / 2 ^ gridExponent n < 2 ^ 53 := by
    rw [Nat.div_lt_iff_lt_mul (Nat.two_pow_pos _), ← Nat.pow_add,
      show 53 + gridExponent n = n.log2 + 1 by omega]
    exact Nat.lt_log2_self
  have hdown := le_roundHalfEven n (2 ^ gridExponent n)
  have hup := roundHalfEven_le n (2 ^ gridExponent n)
  exact ⟨hlow.trans hdown, by omega⟩

theorem ofRatio_one_of_large (negative : Bool) {n : Nat} (hn : n ≠ 0) (hlarge : 52 ≤ n.log2) :
    (ofRatio negative n 1).toInt? = some (signed negative (nearestWhole n)) ∨
      2 ^ (53 + 971) ≤ nearestWhole n ∧ ofRatio negative n 1 = infinite negative := by
  obtain ⟨hlow, hhigh⟩ := roundHalfEven_bounds hn hlarge
  have hexponent : exponentOf n 1 = (gridExponent n : Int) := by
    rw [exponentOf_one hn, gridExponent]
    omega
  have hscaled : scaled n 1 (gridExponent n : Int) = (n, 2 ^ gridExponent n) := by
    rw [scaled, if_neg (by omega), Int.toNat_natCast, Nat.one_mul]
    rfl
  simp only [ofRatio, if_neg hn, hexponent, hscaled, nearestWhole]
  generalize roundHalfEven n (2 ^ gridExponent n) = significand at hlow hhigh ⊢
  generalize gridExponent n = exponent
  by_cases hcarry : significand = twoTo 53
  · -- The same value with one bit less and the next exponent.
    have hvalue : significand * 2 ^ exponent = twoTo 52 * 2 ^ (exponent + 1) := by
      rw [hcarry, Nat.pow_succ', ← Nat.mul_assoc]
      rfl
    simp only [if_pos hcarry, if_neg (show twoTo 52 ≠ 0 by decide)]
    split
    · next hgreatest =>
      refine .inr ⟨?_, rfl⟩
      have hle : 971 ≤ exponent := by
        simp only [greatestExponent] at hgreatest
        omega
      rw [hcarry, pow_add]
      exact Nat.mul_le_mul_left (2 ^ 53) (pow_le_pow_right₀ (by decide) hle)
    · rw [hvalue]
      exact .inl (toInt?_finite_natCast negative (twoTo 52) (exponent + 1))
  · have hne : significand ≠ 0 := (Nat.lt_of_lt_of_le (by decide) hlow).ne'
    simp only [if_neg hcarry, if_neg hne]
    split
    · next hgreatest =>
      refine .inr ⟨?_, rfl⟩
      have hle : 972 ≤ exponent := by
        simp only [greatestExponent] at hgreatest
        omega
      calc
        2 ^ (53 + 971) ≤ 2 ^ (52 + exponent) := pow_le_pow_right₀ (by decide) (by omega)
        _ = 2 ^ 52 * 2 ^ exponent := pow_add 2 52 exponent
        _ ≤ significand * 2 ^ exponent := Nat.mul_le_mul_right _ hlow
    · exact .inl (toInt?_finite_natCast negative significand exponent)

theorem ofRatio_one (negative : Bool) {n : Nat} (hn : n ≠ 0) :
    (ofRatio negative n 1).toInt? = some (signed negative (nearestWhole n)) ∨
      2 ^ (53 + 971) ≤ nearestWhole n ∧ ofRatio negative n 1 = infinite negative := by
  rcases Nat.lt_or_ge n.log2 52 with hsmall | hlarge
  · have hgrid : gridExponent n = 0 := by
      rw [gridExponent]
      omega
    have hnearest : nearestWhole n = n := by
      rw [nearestWhole, hgrid, pow_zero, roundHalfEven_one, Nat.mul_one]
    rw [hnearest]
    exact .inl (ofRatio_one_of_small negative hn hsmall)
  · exact ofRatio_one_of_large negative hn hlarge

/-- No integer of the format is nearer. One that is no multiple of the power of two is below the
power of two with which the integer starts, and that is a multiple. -/
theorem nearestWhole_nearest {n : Nat} (hn : n ≠ 0) {other : Int} (hother : IsWhole other) :
    ((n : Int) - nearestWhole n).natAbs ≤ ((n : Int) - other.natAbs).natAbs := by
  obtain ⟨significand, exponent, hsignificand, -, heq⟩ := hother
  have hnearest (j : Nat) : ((n : Int) - nearestWhole n).natAbs ≤
      ((n : Int) - (j * 2 ^ gridExponent n : Nat)).natAbs :=
    roundHalfEven_nearest n (Nat.two_pow_pos _) j
  rw [heq]
  rcases Nat.lt_or_ge exponent (gridExponent n) with hbelow | habove
  · have hgrid : 52 + gridExponent n = n.log2 := by
      rw [gridExponent] at hbelow ⊢
      omega
    have hle : significand * 2 ^ exponent ≤ 2 ^ 52 * 2 ^ gridExponent n :=
      calc
        significand * 2 ^ exponent ≤ 2 ^ 53 * 2 ^ exponent :=
          Nat.mul_le_mul_right _ hsignificand.le
        _ = 2 ^ 52 * 2 ^ (exponent + 1) := by
          rw [← pow_add, ← pow_add]
          congr 1
          omega
        _ ≤ 2 ^ 52 * 2 ^ gridExponent n :=
          Nat.mul_le_mul_left _ (pow_le_pow_right₀ (by decide) hbelow)
    have hstart : 2 ^ 52 * 2 ^ gridExponent n ≤ n := by
      rw [← Nat.pow_add, hgrid]
      exact Nat.log2_self_le hn
    have hmultiple := hnearest (2 ^ 52)
    generalize 2 ^ 52 * 2 ^ gridExponent n = start at hle hstart hmultiple
    omega
  · obtain ⟨more, rfl⟩ := Nat.exists_eq_add_of_le habove
    rw [Nat.add_comm, Nat.pow_add, ← Nat.mul_assoc]
    exact hnearest (significand * 2 ^ more)

/-- What an integer becomes in the format: the nearest integer that the format has, or an infinity
if it is greater than all of them. -/
inductive Rounds (n : Int) (x : Binary64) : Prop
  | nearest (k : Int) (hvalue : x.toInt? = some k) (hnearest : IsNearest n k)
  | beyond (hvalue : x = infinite (n < 0))
      (hbeyond : ∀ other, IsWhole other → other.natAbs < n.natAbs)

theorem rounds_ofRatio {n : Int} (hn : n ≠ 0) : Rounds n (ofRatio (n < 0) n.natAbs 1) := by
  have hne : n.natAbs ≠ 0 := Int.natAbs_ne_zero.mpr hn
  have hnear := fun other (hother : IsWhole other) => nearestWhole_nearest hne hother
  rcases ofRatio_one (n < 0) hne with hvalue | ⟨hmany, hvalue⟩
  · have hrepresentable := isRepresentable_ofRatio (decide (n < 0)) n.natAbs Nat.one_pos
    refine .nearest _ hvalue ⟨isWhole_of_toInt? hrepresentable hvalue, fun other hother => ?_⟩
    have hle := hnear other hother
    simp only [signed, decide_eq_true_eq]
    generalize nearestWhole n.natAbs = nearest at hle
    split <;> omega
  · refine .beyond hvalue fun other hother => ?_
    have hlt := hother.natAbs_lt.trans_le hmany
    have hle := hnear other hother
    generalize nearestWhole n.natAbs = nearest at hle hlt
    omega

theorem two_pow_le_ten_pow : 2 ^ (53 + 971) ≤ 10 ^ (62 * 5) :=
  calc
    2 ^ (53 + 971) ≤ 2 ^ (205 * 5) := pow_le_pow_right₀ (by decide) (by decide)
    _ = (2 ^ 205) ^ 5 := pow_mul 2 205 5
    _ ≤ (10 ^ 62) ^ 5 := pow_le_pow_left₀ (by decide) (by decide) 5
    _ = 10 ^ (62 * 5) := (pow_mul 10 62 5).symm

theorem rounds_ofDecimal {n : Int} (hn : n ≠ 0) :
    Rounds n (ofDecimal (n < 0) n.natAbs (Text.ofNat n.natAbs).length 0) := by
  rw [ofDecimal, if_neg (Int.natAbs_ne_zero.mpr hn)]
  split
  · next hlong =>
    have hdigits : ¬ (Text.ofNat n.natAbs).length ≤ 62 * 5 := by omega
    have hlarge : 10 ^ (62 * 5) ≤ n.natAbs :=
      Nat.not_lt.mp fun hlt => hdigits (Text.length_ofNat_le (by decide) hlt)
    exact .beyond rfl fun other hother =>
      hother.natAbs_lt.trans_le (two_pow_le_ten_pow.trans hlarge)
  · have hlow : ¬ ((Text.ofNat n.natAbs).length : Int) + 0 < -330 := by omega
    have hone : tenTo (0 : Int).toNat = 1 := rfl
    rw [if_neg hlow, if_neg (by decide), hone, Nat.mul_one]
    exact rounds_ofRatio hn

end Clippings.Binary64
