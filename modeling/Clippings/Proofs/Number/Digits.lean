import Clippings.Number.Shortest
import Clippings.Proofs.Number.Limits
import Clippings.Proofs.Text.Trim
import Clippings.Text.Quoted

namespace Clippings

namespace Text

theorem exists_digitChar {c : CodePoint} (h : c.isDigit = true) :
    ∃ d < 10, c = .char d.digitChar := by
  obtain ⟨hlow, hhigh⟩ := CodePoint.isDigit_iff.mp h
  have hdigit : ∀ d < 10, CodePoint.ofNat (48 + d) = .char d.digitChar := by decide
  refine ⟨c.toNat - 48, by omega, ?_⟩
  rw [← hdigit _ (by omega), Nat.add_sub_cancel' hlow, CodePoint.ofNat_toNat]

theorem isPlainDigit_of_isDigit {c : CodePoint} (h : c.isDigit = true) : isPlainDigit c = true := by
  obtain ⟨d, hd, rfl⟩ := exists_digitChar h
  exact (by decide : ∀ d < 10, isPlainDigit (.char d.digitChar) = true) d hd

theorem isWhole_ofNat (n : Nat) : (ofNat n).IsWhole := by
  intro c hc
  have hdigit := isDigit_of_mem_ofNat hc
  cases c with
  | char c => rfl
  | half unit => cases hdigit

theorem exists_digit_of_mem_toDigits {base n : Nat} {c : Char} (hbase : 1 < base)
    (hc : c ∈ Nat.toDigits base n) : ∃ d < base, c = Nat.digitChar d := by
  induction n using Nat.strongRecOn with
  | ind n ih =>
      rw [Nat.toDigits_eq_if hbase] at hc
      split at hc
      · next hlt => exact ⟨n, hlt, by simpa using hc⟩
      · next hge =>
        rcases List.mem_append.mp hc with hfront | hlast
        · exact ih (n / base) (Nat.div_lt_self (by omega) hbase) hfront
        · exact ⟨n % base, Nat.mod_lt _ (by omega), by simpa using hlast⟩

theorem exists_digit_of_mem_hexDigits {width n : Nat} {c : CodePoint} (hc : c ∈ hexDigits width n) :
    ∃ d < 16, c = .char (Nat.digitChar d) := by
  rcases List.mem_append.mp hc with hfill | hdigits
  · exact ⟨0, by decide, List.eq_of_mem_replicate hfill⟩
  · obtain ⟨digit, hdigit, rfl⟩ := List.mem_map.mp hdigits
    obtain ⟨d, hd, rfl⟩ := exists_digit_of_mem_toDigits (by decide : 1 < 16) hdigit
    exact ⟨d, hd, rfl⟩

theorem isWhole_hexDigits (width n : Nat) : (hexDigits width n).IsWhole := by
  intro c hc
  obtain ⟨d, -, rfl⟩ := exists_digit_of_mem_hexDigits hc
  rfl

def IsIntegerChar (c : CodePoint) : Prop := c.isDigit = true ∨ c = '-'

theorem IsIntegerChar.isBlank {c : CodePoint} (h : IsIntegerChar c) : isBlank c = false := by
  rcases h with hdigit | rfl
  · obtain ⟨d, hd, rfl⟩ := exists_digitChar hdigit
    exact (by decide : ∀ d < 10, Text.isBlank (.char d.digitChar) = false) d hd
  · decide

theorem strip_of_integerChars {text : Text} (h : ∀ c ∈ text, IsIntegerChar c) :
    strip text = text :=
  strip_eq_self_of_ends (fun c hc => (h c (List.mem_of_mem_head? hc)).isBlank)
    fun c hc => (h c (List.mem_of_getLast? hc)).isBlank

theorem plainDigits_of_integerChars {text : Text} (h : ∀ c ∈ text, IsIntegerChar c) :
    plainDigits text = text := by
  refine (List.map_congr_left fun c hc => ?_).trans (List.map_id text)
  rcases h c hc with hdigit | rfl
  · obtain ⟨d, hd, rfl⟩ := exists_digitChar hdigit
    have hvalue : digitValue? d.digitChar = some d :=
      (by decide : ∀ d < 10, digitValue? d.digitChar = some d) d hd
    rw [hvalue]
    exact (by decide : ∀ d < 10, CodePoint.ofNat (48 + d) = d.digitChar) d hd
  · rfl

theorem dropUnderscores_of_not_mem {before : Option CodePoint} {text : Text}
    (hbefore : before ≠ some (.char '_'))
    (htext : .char '_' ∉ text) : dropUnderscores before text = some text := by
  induction text generalizing before with
  | nil => rw [dropUnderscores, if_neg hbefore]
  | cons c rest ih =>
      obtain ⟨hc, hrest⟩ : .char '_' ≠ c ∧ .char '_' ∉ rest := by simpa using htext
      have hnext : some c ≠ some (.char '_') := by simpa using hc.symm
      rw [dropUnderscores, if_neg hc.symm, if_neg (by simp [hbefore]), ih hnext hrest]
      rfl

def signedDigits (negative : Bool) (n : Nat) : Text :=
  if negative then .char '-' :: ofNat n else ofNat n

theorem isIntegerChar_of_mem_signedDigits {negative : Bool} {n : Nat} {c : CodePoint}
    (hc : c ∈ signedDigits negative n) : IsIntegerChar c := by
  cases negative with
  | true =>
      rcases List.mem_cons.mp hc with rfl | hdigit
      · exact .inr rfl
      · exact .inl (isDigit_of_mem_ofNat hdigit)
  | false => exact .inl (isDigit_of_mem_ofNat hc)

theorem exists_ofNat_eq_digitChar_cons (n : Nat) :
    ∃ d < 10, ∃ rest, ofNat n = .char d.digitChar :: rest := by
  cases hdigits : ofNat n with
  | nil => exact absurd hdigits (ofNat_ne_nil n)
  | cons c rest =>
      have hc : c ∈ ofNat n := by rw [hdigits]; exact List.mem_cons_self
      obtain ⟨d, hd, rfl⟩ := exists_digitChar (isDigit_of_mem_ofNat hc)
      exact ⟨d, hd, rest, rfl⟩

theorem splitSign_signedDigits (negative : Bool) (n : Nat) :
    splitSign (signedDigits negative n) = (negative, ofNat n) := by
  cases negative with
  | true => rfl
  | false =>
      have hsign : ∀ d < 10, d.digitChar ≠ '-' ∧ d.digitChar ≠ '+' := by decide
      obtain ⟨d, hd, rest, hdigits⟩ := exists_ofNat_eq_digitChar_cons n
      simp [signedDigits, hdigits, splitSign, hsign d hd]

end Text

namespace Binary64

theorem readDecimal?_ofNat (negative : Bool) {n : Nat} (hn : 0 < n) :
    readDecimal? negative (Text.ofNat n) =
      some (ofDecimal negative n (Text.ofNat n).length 0) := by
  have hplain : ∀ c ∈ Text.ofNat n, Text.isPlainDigit c = true := fun c hc =>
    Text.isPlainDigit_of_isDigit (Text.isDigit_of_mem_ofNat hc)
  have hdigits : (Text.ofNat n).takeWhile Text.isPlainDigit = Text.ofNat n :=
    List.takeWhile_eq_self_iff.mpr hplain
  have hrest : (Text.ofNat n).dropWhile Text.isPlainDigit = [] :=
    List.dropWhile_eq_nil_iff.mpr hplain
  obtain ⟨c, rest, hcons, hzero⟩ := Text.exists_ofNat_eq_cons hn
  have hlead : (Text.ofNat n).dropWhile (· = .char '0') = Text.ofNat n := by
    rw [hcons, List.dropWhile_cons_of_neg (by simpa using hzero)]
  have hsome : (Text.ofNat n).isEmpty = false := by
    rw [hcons]
    rfl
  simp only [readDecimal?, hdigits, hrest, List.append_nil, hsome, readExponent?, hlead,
    Text.natOfText_ofNat]
  rfl

theorem map_toLower_ofNat_ne (n : Nat) {word : Text}
    (hword : word = "inf" ∨ word = "infinity" ∨ word = "nan") :
    (Text.ofNat n).map CodePoint.toLower ≠ word := by
  have hletter : ∀ d < 10, CodePoint.toLower (.char d.digitChar) ≠ 'i' ∧
      CodePoint.toLower (.char d.digitChar) ≠ 'n' := by decide
  obtain ⟨d, hd, rest, hdigits⟩ := Text.exists_ofNat_eq_digitChar_cons n
  intro h
  rw [hdigits] at h
  rcases hword with rfl | rfl | rfl
  · exact (hletter d hd).1 (List.cons.inj h).1
  · exact (hletter d hd).1 (List.cons.inj h).1
  · exact (hletter d hd).2 (List.cons.inj h).1

theorem read?_signedDigits (negative : Bool) {n : Nat} (hn : 0 < n) :
    read? (Text.signedDigits negative n) =
      some (ofDecimal negative n (Text.ofNat n).length 0) := by
  have hchars : ∀ c ∈ Text.signedDigits negative n, Text.IsIntegerChar c := fun c hc =>
    Text.isIntegerChar_of_mem_signedDigits hc
  have hunderscore : .char '_' ∉ Text.signedDigits negative n := fun h =>
    (hchars _ h).elim (fun hdigit => absurd hdigit (by decide)) fun hminus =>
      absurd hminus (by decide)
  have hkept : Text.dropUnderscores none (Text.signedDigits negative n) =
      some (Text.signedDigits negative n) :=
    Text.dropUnderscores_of_not_mem (by simp) hunderscore
  simp only [read?, Text.strip_of_integerChars hchars, Text.plainDigits_of_integerChars hchars,
    hkept, Text.splitSign_signedDigits, map_toLower_ofNat_ne n (.inl rfl),
    map_toLower_ofNat_ne n (.inr (.inl rfl)), map_toLower_ofNat_ne n (.inr (.inr rfl)),
    decide_false, Bool.or_self, Bool.false_eq_true, if_false]
  exact readDecimal?_ofNat negative hn

theorem isWhole_significantDigits (n : Nat) : (significantDigits n).IsWhole := by
  rw [significantDigits]
  split
  · decide
  · refine (Text.isWhole_ofNat n).of_subset fun c hc => ?_
    rw [List.mem_reverse] at hc
    exact List.mem_reverse.mp ((List.dropWhile_suffix _).subset hc)

theorem isWhole_positional {digits : Text} (h : digits.IsWhole) (point : Int) :
    (positional digits point).IsWhole := by
  have hzeros (n : Nat) : Text.IsWhole (List.replicate n '0') := Text.isWhole_replicate n rfl
  rw [positional]
  split
  · simp only [Text.isWhole_cons, Text.isWhole_append]
    exact ⟨rfl, rfl, hzeros _, h⟩
  · simp only [Text.isWhole_cons, Text.isWhole_append]
    refine ⟨⟨h.of_subset (List.take_subset _ _), hzeros _⟩, rfl, ?_⟩
    split
    · decide
    · exact h.of_subset (List.drop_subset _ _)

theorem isWhole_scientific {digits : Text} (h : digits.IsWhole) (exponent : Int) :
    (scientific digits exponent).IsWhole := by
  have hpoint : Text.IsWhole (if digits.length ≤ 1 then [] else .char '.' :: digits.drop 1) := by
    split
    · exact Text.isWhole_nil
    · exact Text.isWhole_cons.mpr ⟨rfl, h.of_subset (List.drop_subset _ _)⟩
  have hsign : (if exponent < 0 then CodePoint.char '-' else .char '+').isHalf = false := by
    split <;> rfl
  have hexponent : (Text.ofNatPadded 2 exponent.natAbs).IsWhole :=
    Text.isWhole_append.mpr ⟨Text.isWhole_replicate _ rfl, Text.isWhole_ofNat _⟩
  rw [scientific]
  simp only [Text.isWhole_cons, Text.isWhole_append]
  exact ⟨⟨h.of_subset (List.take_subset _ _), hpoint⟩, rfl, hsign, hexponent⟩

theorem isWhole_text (x : Binary64) : x.text.IsWhole := by
  cases x with
  | nan => decide
  | infinite negative => cases negative <;> decide
  | finite negative significand exponent =>
      rw [text]
      dsimp only
      set magnitude := if significand = 0 then _ else _ with hmagnitude
      have hwhole : Text.IsWhole magnitude := by
        rw [hmagnitude]
        split
        · decide
        · split
          · exact isWhole_positional (isWhole_significantDigits _) _
          · exact isWhole_scientific (isWhole_significantDigits _) _
      split
      · exact Text.isWhole_cons.mpr ⟨rfl, hwhole⟩
      · exact hwhole

end Binary64

end Clippings
