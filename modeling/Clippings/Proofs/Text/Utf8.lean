import Clippings.Text.Utf8
import Mathlib.Data.List.Basic
import Mathlib.Data.List.TakeWhile

namespace Clippings.Text.Utf8

theorem toNat_toUInt8 {n : Nat} (h : n < 256) : n.toUInt8.toNat = n :=
  UInt8.toNat_ofNat_of_lt h

theorem sequenceLength_toUInt8 {n : Nat} (h : n < 256) :
    sequenceLength n.toUInt8 =
      if n < 0x80 then some 1 else if n < 0xC2 then none else if n < 0xE0 then some 2
      else if n < 0xF0 then some 3 else if n < 0xF5 then some 4 else none := by
  simp only [sequenceLength, UInt8.lt_iff_toNat_lt, toNat_toUInt8 h]
  rfl

theorem payload_toUInt8 {k : Nat} (h : k < 64) : payload (0x80 + k).toUInt8 = k := by
  rw [payload, toNat_toUInt8 (by omega)]
  omega

/-- The bytes that may follow a leading byte leave out what has a shorter form, what is no
character, and what is too large. -/
theorem mem_secondRange {n k : Nat} (hn : n < 256) (hk : k < 64) (hshort : n = 0xE0 → 32 ≤ k)
    (hsurrogate : n = 0xED → k < 32) (hshort' : n = 0xF0 → 16 ≤ k) (hlarge : n = 0xF4 → k < 16) :
    (secondRange n.toUInt8).1 ≤ (0x80 + k).toUInt8 ∧
      (0x80 + k).toUInt8 ≤ (secondRange n.toUInt8).2 := by
  have hbyte : (0x80 + k).toUInt8.toNat = 0x80 + k := toNat_toUInt8 (by omega)
  have heq (m : UInt8) : n.toUInt8 = m ↔ n = m.toNat := by
    rw [← UInt8.toNat_inj, toNat_toUInt8 hn]
  simp only [secondRange, heq, UInt8.le_iff_toNat_le]
  split_ifs <;> simp_all <;> omega

theorem readRest_second {n k : Nat} (position need code : Nat) (rest : Bytes)
    (h : (secondRange n.toUInt8).1 ≤ (0x80 + k).toUInt8 ∧
      (0x80 + k).toUInt8 ≤ (secondRange n.toUInt8).2) (hk : k < 64) :
    readRest n.toUInt8 position (need + 1) 1 code ((0x80 + k).toUInt8 :: rest) =
      readRest n.toUInt8 position need 2 (code * 64 + k) rest := by
  have hrange : (decide ((secondRange n.toUInt8).1 ≤ (0x80 + k).toUInt8) &&
      decide ((0x80 + k).toUInt8 ≤ (secondRange n.toUInt8).2)) = true := by
    rw [Bool.and_eq_true, decide_eq_true_eq, decide_eq_true_eq]
    exact h
  simp only [readRest, if_true, hrange, payload_toUInt8 hk]

theorem readRest_later {k seen : Nat} (lead : UInt8) (position need code : Nat) (rest : Bytes)
    (hseen : seen ≠ 1) (hk : k < 64) :
    readRest lead position (need + 1) seen code ((0x80 + k).toUInt8 :: rest) =
      readRest lead position need (seen + 1) (code * 64 + k) rest := by
  have hbyte : (0x80 + k).toUInt8.toNat = 0x80 + k := toNat_toUInt8 (by omega)
  have hrange : (decide ((0x80 : UInt8) ≤ (0x80 + k).toUInt8) &&
      decide ((0x80 + k).toUInt8 ≤ (0xBF : UInt8))) = true := by
    rw [Bool.and_eq_true, decide_eq_true_eq, decide_eq_true_eq, UInt8.le_iff_toNat_le,
      UInt8.le_iff_toNat_le, hbyte]
    constructor
    · exact Nat.le_add_right _ _
    · change 0x80 + k ≤ 0xBF
      omega
  simp only [readRest, if_neg hseen, hrange, if_true, payload_toUInt8 hk]

theorem decodeFrom_sequence {fuel position code length n : Nat} {bytes rest : Bytes} (hn : n < 256)
    (hlength : (if n < 0x80 then some 1 else if n < 0xC2 then none else if n < 0xE0 then some 2
      else if n < 0xF0 then some 3 else if n < 0xF5 then some 4 else none) = some length)
    (hrest : readRest n.toUInt8 position (length - 1) 1 (leadPayload n.toUInt8 length) bytes =
      .ok (code, rest)) :
    decodeFrom (fuel + 1) position (n.toUInt8 :: bytes) =
      (decodeFrom fuel (position + length) rest).map (CodePoint.ofNat code :: ·) := by
  simp only [decodeFrom, sequenceLength_toUInt8 hn, hlength, hrest]
  change (decodeFrom fuel (position + length) rest >>= fun text =>
    pure (CodePoint.ofNat code :: text)) = _
  cases decodeFrom fuel (position + length) rest <;> rfl

theorem decodeFrom_encodeChar (fuel position : Nat) (c : Char) (rest : Bytes) :
    ∃ length, decodeFrom (fuel + 1) position (encodeChar c ++ rest) =
      (decodeFrom fuel (position + length) rest).map (.char c :: ·) := by
  obtain ⟨n, hn⟩ : ∃ n, c.toNat = n := ⟨_, rfl⟩
  have hc : CodePoint.ofNat n = .char c := by
    rw [← hn, ← CodePoint.toNat_char, CodePoint.ofNat_toNat]
  have hvalid : n < 0xD800 ∨ 0xDFFF < n ∧ n < 0x110000 := hn ▸ c.valid
  rw [encodeChar, hn, ← hc]
  by_cases hone : n < 0x80
  · have hpayload : leadPayload n.toUInt8 1 = n := toNat_toUInt8 (by omega)
    refine ⟨1, ?_⟩
    rw [if_pos hone]
    refine decodeFrom_sequence (by omega) (if_pos hone) ?_
    rw [hpayload]
    rfl
  by_cases htwo : n < 0x800
  · have hlead : 0xC0 + n / 64 < 256 := by omega
    have hsecond := @mem_secondRange (0xC0 + n / 64) (n % 64) hlead (by omega) (by omega)
      (by omega) (by omega) (by omega)
    have hpayload : leadPayload (0xC0 + n / 64).toUInt8 2 * 64 + n % 64 = n := by
      change (0xC0 + n / 64).toUInt8.toNat % 32 * 64 + n % 64 = n
      rw [toNat_toUInt8 hlead]
      omega
    refine ⟨2, ?_⟩
    rw [if_neg hone, if_pos htwo]
    refine decodeFrom_sequence hlead (by split_ifs <;> first | rfl | omega) ?_
    refine (readRest_second position 0 _ rest hsecond (by omega)).trans ?_
    rw [hpayload]
    rfl
  by_cases hthree : n < 0x10000
  · have hlead : 0xE0 + n / 4096 < 256 := by omega
    have hsecond := @mem_secondRange (0xE0 + n / 4096) (n / 64 % 64) hlead (by omega) (by omega)
      (by omega) (by omega) (by omega)
    have hpayload :
        (leadPayload (0xE0 + n / 4096).toUInt8 3 * 64 + n / 64 % 64) * 64 + n % 64 = n := by
      change ((0xE0 + n / 4096).toUInt8.toNat % 16 * 64 + n / 64 % 64) * 64 + n % 64 = n
      rw [toNat_toUInt8 hlead]
      omega
    refine ⟨3, ?_⟩
    rw [if_neg hone, if_neg htwo, if_pos hthree]
    refine decodeFrom_sequence hlead (by split_ifs <;> first | rfl | omega) ?_
    refine (readRest_second position 1 _ _ hsecond (by omega)).trans ?_
    refine (readRest_later _ position 0 _ rest (by decide) (by omega)).trans ?_
    rw [hpayload]
    rfl
  · have hlead : 0xF0 + n / 262144 < 256 := by omega
    have hsecond := @mem_secondRange (0xF0 + n / 262144) (n / 4096 % 64) hlead (by omega)
      (by omega) (by omega) (by omega) (by omega)
    have hpayload : ((leadPayload (0xF0 + n / 262144).toUInt8 4 * 64 + n / 4096 % 64) * 64 +
        n / 64 % 64) * 64 + n % 64 = n := by
      change (((0xF0 + n / 262144).toUInt8.toNat % 8 * 64 + n / 4096 % 64) * 64 + n / 64 % 64) * 64
        + n % 64 = n
      rw [toNat_toUInt8 hlead]
      omega
    refine ⟨4, ?_⟩
    rw [if_neg hone, if_neg htwo, if_neg hthree]
    refine decodeFrom_sequence hlead (by split_ifs <;> first | rfl | omega) ?_
    refine (readRest_second position 2 _ _ hsecond (by omega)).trans ?_
    refine (readRest_later _ position 1 _ _ (by decide) (by omega)).trans ?_
    refine (readRest_later _ position 0 _ rest (by decide) (by omega)).trans ?_
    rw [hpayload]
    rfl

theorem length_le_length_encode {text : Text} (h : text.IsWhole) :
    text.length ≤ (encode text).length := by
  induction text with
  | nil => simp
  | cons c text ih =>
      obtain ⟨hwhole, htext⟩ := isWhole_cons.mp h
      obtain ⟨c, rfl⟩ := CodePoint.exists_char_of_isHalf hwhole
      have hchar : 1 ≤ (encodeChar c).length := by
        rw [encodeChar]
        split_ifs <;> simp
      have hrest := ih htext
      simp only [encode, List.flatMap_cons, List.length_append, List.length_cons,
        encodePoint] at hrest ⊢
      omega

theorem decodeFrom_encode {fuel : Nat} {text : Text} (hwhole : text.IsWhole)
    (h : text.length ≤ fuel) (position : Nat) :
    decodeFrom fuel position (encode text) = .ok text := by
  induction text generalizing fuel position with
  | nil => cases fuel <;> rfl
  | cons c text ih =>
      obtain ⟨hfirst, htext⟩ := isWhole_cons.mp hwhole
      obtain ⟨c, rfl⟩ := CodePoint.exists_char_of_isHalf hfirst
      obtain ⟨fuel, rfl⟩ : ∃ less, fuel = less + 1 := ⟨fuel - 1, by simp at h; omega⟩
      obtain ⟨length, hlength⟩ := decodeFrom_encodeChar fuel position c (encode text)
      rw [encode, List.flatMap_cons, encodePoint]
      rw [encode] at hlength
      rw [hlength, ← encode, ih htext (by simpa using h)]
      rfl

theorem decode_encode {text : Text} (h : text.IsWhole) : decode (encode text) = .ok text :=
  decodeFrom_encode h (length_le_length_encode h) 0

theorem unencodable?_eq_none_iff {text : Text} : unencodable? text = none ↔ text.IsWhole := by
  have hwhole : text.dropWhile (!CodePoint.isHalf ·) = [] ↔ text.IsWhole := by
    simp [List.dropWhile_eq_nil_iff, IsWhole]
  rw [unencodable?, firstRefused?, ← hwhole]
  split
  · next hnil => simp [hnil]
  · next hcons => simp [hcons]

end Clippings.Text.Utf8
