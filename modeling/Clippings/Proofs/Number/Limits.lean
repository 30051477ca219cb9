import Clippings.Number.Reading
import Clippings.Proofs.Number.Rounding

namespace Clippings

namespace Binary64

theorem isRepresentable_ofDecimal (negative : Bool) (digits count : Nat) (exponent : Int) :
    (ofDecimal negative digits count exponent).IsRepresentable := by
  rw [ofDecimal]
  split
  · exact isRepresentable_zero negative
  · split
    · trivial
    · split
      · exact isRepresentable_zero negative
      · split
        · exact isRepresentable_ofRatio _ _ (Nat.pow_pos (by decide))
        · exact isRepresentable_ofRatio _ _ (by decide)

theorem isRepresentable_of_readDecimal? {negative : Bool} {text : Text} {x : Binary64}
    (h : readDecimal? negative text = some x) : x.IsRepresentable := by
  simp only [readDecimal?] at h
  split at h
  all_goals
    split at h
    · simp at h
    · split at h
      · simp at h
      · obtain rfl := Option.some.inj h
        exact isRepresentable_ofDecimal _ _ _ _

theorem isRepresentable_of_read? {text : Text} {x : Binary64} (h : read? text = some x) :
    x.IsRepresentable := by
  simp only [read?] at h
  split at h
  · simp at h
  · split at h
    · obtain rfl := Option.some.inj h
      trivial
    · split at h
      · obtain rfl := Option.some.inj h
        trivial
      · exact isRepresentable_of_readDecimal? h

theorem natAbs_truncate_lt {x : Binary64} (h : x.IsRepresentable) {n : Int}
    (hn : x.truncate? = some n) : n.natAbs < 2 ^ (53 + 971) := by
  cases x with
  | nan => simp [truncate?] at hn
  | infinite negative => simp [truncate?] at hn
  | finite negative significand exponent =>
      obtain ⟨hsignificand, -, hexponent⟩ := h
      have hmagnitude : (if exponent < 0 then significand / twoTo (-exponent).toNat
          else significand * twoTo exponent.toNat) < 2 ^ (53 + 971) := by
        split
        · calc
            significand / twoTo (-exponent).toNat ≤ significand := Nat.div_le_self _ _
            _ < 2 ^ 53 := hsignificand
            _ ≤ 2 ^ (53 + 971) := pow_le_pow_right₀ (by decide) (by decide)
        · have hpow : twoTo exponent.toNat ≤ 2 ^ 971 := by
            apply Nat.pow_le_pow_right (by decide)
            have hgreatest : exponent ≤ 971 := hexponent
            omega
          calc
            significand * twoTo exponent.toNat < 2 ^ 53 * 2 ^ 971 :=
              Nat.mul_lt_mul_of_lt_of_le hsignificand hpow (pow_pos (by decide) 971)
            _ = 2 ^ (53 + 971) := (pow_add 2 53 971).symm
      simp only [truncate?, Option.some.injEq] at hn
      rw [← hn]
      cases negative with
      | false => exact (Int.natAbs_natCast _).trans_lt hmagnitude
      | true => exact ((Int.natAbs_neg _).trans (Int.natAbs_natCast _)).trans_lt hmagnitude

end Binary64

namespace Text

theorem natOfDigits_append_singleton (digits : List Nat) (d : Nat) :
    natOfDigits (digits ++ [d]) = 10 * natOfDigits digits + d := by
  simp [natOfDigits]

theorem natOfDigits_lt {digits : List Nat} (h : ∀ d ∈ digits, d < 10) :
    natOfDigits digits < 10 ^ digits.length := by
  induction digits using List.reverseRecOn with
  | nil => simp [natOfDigits]
  | append_singleton digits d ih =>
      have hlast : d < 10 := h d (by simp)
      have hfront := ih (fun e he => h e (by simp [he]))
      rw [natOfDigits_append_singleton, List.length_append, List.length_singleton, pow_succ]
      omega

theorem natOfText_lt {digits : Text} (h : ∀ c ∈ digits, c.isDigit = true) :
    natOfText digits < 10 ^ digits.length := by
  have hvalues : ∀ d ∈ digits.map (fun c => c.toNat - 48), d < 10 := by
    intro d hd
    obtain ⟨c, hc, rfl⟩ := List.mem_map.mp hd
    have hdigit := h c hc
    have hnine : c.toNat ≤ 57 := (CodePoint.isDigit_iff.mp hdigit).2
    omega
  simpa [natOfText] using natOfDigits_lt hvalues

theorem length_ofNat_le {n k : Nat} (hk : 0 < k) (hn : n < 10 ^ k) : (ofNat n).length ≤ k := by
  rw [ofNat, List.length_map]
  exact (Nat.length_toDigits_le_iff (by decide) hk).mpr hn

theorem natOfText_append_singleton (digits : Text) (c : CodePoint) :
    natOfText (digits ++ [c]) = 10 * natOfText digits + (c.toNat - 48) := by
  rw [natOfText, List.map_append, List.map_singleton, natOfDigits_append_singleton]
  rfl

theorem digitChar_toNat : ∀ d < 10, d.digitChar.toNat - 48 = d := by decide

theorem digitChar_ne_zero : ∀ d < 10, 0 < d → d.digitChar ≠ '0' := by decide

theorem ofNat_ne_nil (n : Nat) : ofNat n ≠ [] := by
  rw [ofNat, Ne, List.map_eq_nil_iff]
  exact Nat.toDigits_ne_nil

theorem ofNat_of_lt {n : Nat} (h : n < 10) : ofNat n = [.char n.digitChar] := by
  rw [ofNat, Nat.toDigits_of_lt_base h, List.map_singleton]

theorem ofNat_of_le {n : Nat} (h : 10 ≤ n) :
    ofNat n = ofNat (n / 10) ++ [.char (n % 10).digitChar] := by
  rw [ofNat, ofNat, Nat.toDigits_of_base_le (by decide) h, List.map_append, List.map_singleton]

theorem natOfText_ofNat (n : Nat) : natOfText (ofNat n) = n := by
  induction n using Nat.strong_induction_on with
  | _ n ih =>
      rcases Nat.lt_or_ge n 10 with hlt | hge
      · rw [ofNat_of_lt hlt]
        simpa [natOfText, natOfDigits] using digitChar_toNat n hlt
      · rw [ofNat_of_le hge, natOfText_append_singleton, ih (n / 10) (by omega),
          CodePoint.toNat_char, digitChar_toNat _ (Nat.mod_lt n (by decide))]
        omega

theorem isDigit_of_mem_ofNat {n : Nat} {c : CodePoint} (h : c ∈ ofNat n) : c.isDigit = true := by
  obtain ⟨c, hc, rfl⟩ := List.mem_map.mp h
  exact Nat.isDigit_of_mem_toDigits (by decide) (by decide) hc

theorem exists_ofNat_eq_cons {n : Nat} (h : 0 < n) :
    ∃ c rest, ofNat n = c :: rest ∧ c ≠ '0' := by
  induction n using Nat.strong_induction_on with
  | _ n ih =>
      rcases Nat.lt_or_ge n 10 with hlt | hge
      · refine ⟨n.digitChar, [], ofNat_of_lt hlt, ?_⟩
        simpa using digitChar_ne_zero n hlt h
      · obtain ⟨c, rest, hfront, hzero⟩ := ih (n / 10) (by omega) (by omega)
        refine ⟨c, rest ++ [.char (n % 10).digitChar], ?_, hzero⟩
        rw [ofNat_of_le hge, hfront, List.cons_append]

end Text

theorem length_ofNat_le_of_lt_two_pow {n : Nat} (h : n < 2 ^ (53 + 971)) :
    (Text.ofNat n).length ≤ integerDigitLimit := by
  apply Text.length_ofNat_le (by decide)
  calc
    n < 2 ^ (53 + 971) := h
    _ ≤ 10 ^ (53 + 971) := pow_le_pow_left₀ (by decide) (by decide) (53 + 971)
    _ ≤ 10 ^ integerDigitLimit := pow_le_pow_right₀ (by decide) (by decide)

end Clippings
