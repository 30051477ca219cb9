namespace Clippings

/-- A code point: a character, or half of a surrogate pair that stands alone. -/
inductive CodePoint
  | char (c : Char)
  | half (unit : Fin 0x800)
  deriving DecidableEq, Repr

namespace CodePoint

instance : Coe Char CodePoint := ⟨char⟩

instance : Inhabited CodePoint := ⟨'\x00'⟩

def toNat : CodePoint → Nat
  | char c => c.toNat
  | half unit => 0xD800 + unit

def ofNat (n : Nat) : CodePoint :=
  if h : 0xD800 ≤ n ∧ n < 0xE000 then half ⟨n - 0xD800, by omega⟩ else char (Char.ofNat n)

@[simp] theorem toNat_char (c : Char) : (char c).toNat = c.toNat := rfl

theorem ofNat_toNat (c : CodePoint) : ofNat c.toNat = c := by
  cases c with
  | char c =>
      have hvalid : ¬(0xD800 ≤ c.toNat ∧ c.toNat < 0xE000) := by
        have hchar : c.toNat < 0xD800 ∨ 0xDFFF < c.toNat ∧ c.toNat < 0x110000 := c.valid
        omega
      rw [ofNat, toNat, dif_neg hvalid, Char.ofNat_toNat]
  | half unit =>
      have hhalf : 0xD800 ≤ 0xD800 + unit.val ∧ 0xD800 + unit.val < 0xE000 := by omega
      rw [ofNat, toNat, dif_pos hhalf]
      simp

theorem toNat_inj {c d : CodePoint} : c.toNat = d.toNat ↔ c = d :=
  ⟨fun h => by rw [← ofNat_toNat c, h, ofNat_toNat], congrArg toNat⟩

theorem toNat_lt (c : CodePoint) : c.toNat < 0x110000 := by
  cases c with
  | char c =>
      have hchar : c.toNat < 0xD800 ∨ 0xDFFF < c.toNat ∧ c.toNat < 0x110000 := c.valid
      rw [toNat]
      omega
  | half unit =>
      rw [toNat]
      omega

/-- Numbers beyond the last code point are those of no character. -/
theorem ofNat_of_le {n : Nat} (h : 0x110000 ≤ n) : ofNat n = '\x00' := by
  have hvalid : ¬n.isValidChar := by
    rw [Nat.isValidChar]
    omega
  rw [ofNat, dif_neg (by omega), Char.ofNat, dif_neg hvalid]
  rfl

theorem toNat_ofNat {n : Nat} (h : n < 0x110000) : (ofNat n).toNat = n := by
  rw [ofNat]
  split
  · next hhalf => exact Nat.add_sub_of_le hhalf.1
  · next hchar =>
      have hvalid : n.isValidChar := by
        rw [Nat.isValidChar]
        omega
      rw [toNat_char, Char.ofNat, dif_pos hvalid]
      rfl

instance : LE CodePoint := ⟨fun first second => first.toNat ≤ second.toNat⟩

instance : DecidableLE CodePoint := fun first second =>
  inferInstanceAs (Decidable (first.toNat ≤ second.toNat))

theorem le_def {c d : CodePoint} : c ≤ d ↔ c.toNat ≤ d.toNat := .rfl

/-- Whether a code point is a character of a class. -/
def isCharIn (charClass : Char → Bool) : CodePoint → Bool
  | char c => charClass c
  | half _ => false

def isDigit : CodePoint → Bool := isCharIn Char.isDigit

@[simp] theorem isDigit_char (c : Char) : (char c).isDigit = c.isDigit := rfl

theorem isDigit_iff {c : CodePoint} : c.isDigit = true ↔ 48 ≤ c.toNat ∧ c.toNat ≤ 57 := by
  cases c with
  | char c =>
      simp only [isDigit_char, Char.isDigit, Bool.and_eq_true, decide_eq_true_eq,
        UInt32.le_iff_toNat_le]
      rfl
  | half unit =>
      refine iff_of_false Bool.false_ne_true fun h => ?_
      have hhalf : 0xD800 + unit.val ≤ 57 := h.2
      omega

def isAlpha : CodePoint → Bool := isCharIn Char.isAlpha

@[simp] theorem isAlpha_char (c : Char) : (char c).isAlpha = c.isAlpha := rfl

def isAlphanum : CodePoint → Bool := isCharIn Char.isAlphanum

@[simp] theorem isAlphanum_char (c : Char) : (char c).isAlphanum = c.isAlphanum := rfl

def isHalf : CodePoint → Bool
  | char _ => false
  | half _ => true

theorem exists_char_of_isHalf {c : CodePoint} (h : c.isHalf = false) : ∃ d : Char, c = d := by
  cases c with
  | char d => exact ⟨d, rfl⟩
  | half unit => cases h

def toLower : CodePoint → CodePoint
  | char c => c.toLower
  | half unit => half unit

def toUpper : CodePoint → CodePoint
  | char c => c.toUpper
  | half unit => half unit

end CodePoint

end Clippings
