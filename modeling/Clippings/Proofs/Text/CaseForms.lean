import Clippings.Proofs.Text.Lowering
import Clippings.Text.Identifier

namespace Clippings.Text

namespace CaseRun

variable {run other : CaseRun} {n : Nat}

def lowest (run : CaseRun) : Nat := ((run.first : Int) + run.shift).toNat

def highest (run : CaseRun) : Nat := ((run.last : Int) + run.shift).toNat

def avoids (run : CaseRun) (range : Nat × Nat) : Bool :=
  run.highest.blt range.1 || range.2.blt run.lowest

/-- Whether the images of a run are outside of another one, or between its members. -/
def misses (run other : CaseRun) : Bool :=
  run.avoids (other.first, other.last) ||
    (run.first == run.last || run.step == 2) && other.step == 2 &&
      run.lowest % 2 != other.first % 2

theorem image_bounds (h : run.has n = true) :
    run.lowest ≤ ((n : Int) + run.shift).toNat ∧ ((n : Int) + run.shift).toNat ≤ run.highest := by
  obtain ⟨hfirst, hlast, -⟩ := bounds_of_has h
  constructor
  · exact Int.toNat_le_toNat (by omega)
  · exact Int.toNat_le_toNat (by omega)

theorem image_of_avoids {range : Nat × Nat} (h : run.avoids range = true)
    (hn : run.has n = true) :
    ((n : Int) + run.shift).toNat < range.1 ∨ range.2 < ((n : Int) + run.shift).toNat := by
  have hbounds := image_bounds hn
  simp only [avoids, Bool.or_eq_true, Nat.blt_eq] at h
  omega

theorem has_image_of_misses (h : run.misses other = true)
    (hshift : 0 ≤ (run.first : Int) + run.shift) (hn : run.has n = true) :
    other.has ((n : Int) + run.shift).toNat = false := by
  by_contra himage
  obtain ⟨hfirst, hlast, hstep⟩ := bounds_of_has (Bool.not_eq_false _ ▸ himage)
  rw [misses, Bool.or_eq_true] at h
  rcases h with havoids | hbetween
  · have := image_of_avoids havoids hn
    omega
  · simp only [Bool.and_eq_true, Bool.or_eq_true, beq_iff_eq, bne_iff_ne, lowest] at hbetween
    obtain ⟨⟨hrun, hother⟩, hparity⟩ := hbetween
    obtain ⟨hnfirst, hnlast, hnstep⟩ := bounds_of_has hn
    rw [hother] at hstep
    rcases hrun with hsingle | htwo
    · omega
    · rw [htwo] at hnstep
      omega

end CaseRun

theorem misses_lowerRuns : (lowerRuns.all fun run => lowerRuns.all run.misses) = true := by
  decide +kernel

theorem shiftBy_shiftBy (n : Nat) :
    shiftBy (shiftBy n lowerRuns) lowerRuns = shiftBy n lowerRuns := by
  rcases shiftBy_cases n lowerRuns with hsame | ⟨run, hrun, hn, himage⟩
  · rw [hsame, hsame]
  · rcases shiftBy_cases (shiftBy n lowerRuns) lowerRuns with hsame | ⟨other, hother, hhas, -⟩
    · exact hsame
    · have hmisses : run.misses other = true :=
        List.all_eq_true.mp (List.all_eq_true.mp misses_lowerRuns run hrun) other hother
      have hletter := (letters_lowerRuns run hrun).1
      rw [himage, CaseRun.has_image_of_misses hmisses (by omega) hn] at hhas
      cases hhas

def IsLower (c : CodePoint) : Prop := lowerChar c = [c]

instance (c : CodePoint) : Decidable (IsLower c) := inferInstanceAs (Decidable (lowerChar c = [c]))

namespace IsLower

variable {c : CodePoint}

theorem ne_sigma (h : IsLower c) : c ≠ 'Σ' := by
  rintro rfl
  exact absurd h (by decide +kernel)

theorem isPlainUpper_eq (h : IsLower c) : isPlainUpper c = false := by
  by_contra hletter
  simp only [isPlainUpper, Bool.not_eq_false, Bool.and_eq_true, decide_eq_true_eq] at hletter
  have hfirst : 0x41 ≤ c.toNat := hletter.1
  have hlast : c.toNat ≤ 0x5A := hletter.2
  have hletters : ∀ n < 26, ¬ IsLower (CodePoint.ofNat (0x41 + n)) := by decide +kernel
  have hc := hletters (c.toNat - 0x41) (by omega)
  rw [Nat.add_sub_cancel' hfirst, CodePoint.ofNat_toNat] at hc
  exact hc h

end IsLower

theorem avoids_dottedCapital : (lowerRuns.all (·.avoids (0x130, 0x130))) = true := by
  decide +kernel

theorem shiftBy_lowerRuns_facts {c : CodePoint} (h : c.toNat ≠ 0x130) :
    shiftBy c.toNat lowerRuns < 0x110000 ∧ shiftBy c.toNat lowerRuns ≠ 0x130 := by
  constructor
  · rcases shiftBy_lowerRuns_cases c.toNat with hsame | ⟨-, hvalid⟩
    · rw [hsame]
      exact c.toNat_lt
    · exact hvalid
  · rcases shiftBy_cases c.toNat lowerRuns with hsame | ⟨run, hrun, hn, himage⟩
    · rwa [hsame]
    · have := CaseRun.image_of_avoids (List.all_eq_true.mp avoids_dottedCapital run hrun) hn
      omega

theorem isLower_of_mem_lowerChar {c d : CodePoint} (h : d ∈ lowerChar c) : IsLower d := by
  rw [lowerChar] at h
  split at h
  · simp only [List.mem_cons, List.not_mem_nil, or_false] at h
    rcases h with rfl | rfl
    · decide +kernel
    · decide +kernel
  · next hc =>
    obtain rfl := List.mem_singleton.mp h
    obtain ⟨hvalid, hdotted⟩ := shiftBy_lowerRuns_facts hc
    rw [IsLower, lowerChar, CodePoint.toNat_ofNat hvalid, if_neg hdotted, shiftBy_shiftBy]

theorem mem_lowerAfter {before text : Text} {d : CodePoint} (h : d ∈ lowerAfter before text) :
    d = 'σ' ∨ d = 'ς' ∨ ∃ c ∈ text, d ∈ lowerChar c := by
  induction text generalizing before with
  | nil => cases h
  | cons c rest ih =>
      rw [lowerAfter, List.mem_append] at h
      rcases h with hfirst | hrest
      · split at hfirst
        · obtain rfl := List.mem_singleton.mp hfirst
          split
          · exact .inr (.inl rfl)
          · exact .inl rfl
        · exact .inr (.inr ⟨c, by simp, hfirst⟩)
      · rcases ih hrest with hsigma | hfinal | ⟨e, he, hd⟩
        · exact .inl hsigma
        · exact .inr (.inl hfinal)
        · exact .inr (.inr ⟨e, by simp [he], hd⟩)

theorem isLower_of_mem_lower {text : Text} {d : CodePoint} (h : d ∈ lower text) : IsLower d := by
  rcases mem_lowerAfter h with rfl | rfl | ⟨c, -, hd⟩
  · decide +kernel
  · decide +kernel
  · exact isLower_of_mem_lowerChar hd

theorem lowerAfter_eq_self {text : Text} (h : ∀ c ∈ text, IsLower c) (before : Text) :
    lowerAfter before text = text := by
  induction text generalizing before with
  | nil => rfl
  | cons c rest ih =>
      obtain ⟨hc, hrest⟩ := List.forall_mem_cons.mp h
      rw [lowerAfter, if_neg hc.ne_sigma, hc, ih hrest, List.singleton_append]

theorem lower_eq_self {text : Text} (h : ∀ c ∈ text, IsLower c) : lower text = text :=
  lowerAfter_eq_self h []

def separatorRanges : List (Nat × Nat) := (0x2D, 0x2D) :: (0x5F, 0x5F) :: blankRanges

theorem exists_range_of_separatesWords {c : CodePoint} (h : separatesWords c = true) :
    ∃ range ∈ separatorRanges, range.1 ≤ c.toNat ∧ c.toNat ≤ range.2 := by
  simp only [separatesWords, Bool.or_eq_true, decide_eq_true_eq] at h
  rcases h with (rfl | rfl) | hblank
  · exact ⟨(0x2D, 0x2D), by simp [separatorRanges], by decide⟩
  · exact ⟨(0x5F, 0x5F), by simp [separatorRanges], by decide⟩
  · obtain ⟨range, hrange, hbounds⟩ := mem_of_inRanges hblank
    exact ⟨range, by simp [separatorRanges, hrange], hbounds⟩

theorem separatesWords_shiftBy {runs : List CaseRun}
    (h : (runs.all fun run => separatorRanges.all run.avoids) = true) (c : CodePoint) :
    CodePoint.ofNat (shiftBy c.toNat runs) = c ∨
      separatesWords (CodePoint.ofNat (shiftBy c.toNat runs)) = false := by
  rcases shiftBy_cases c.toNat runs with hsame | ⟨run, hrun, hn, himage⟩
  · rw [hsame, CodePoint.ofNat_toNat]
    exact .inl rfl
  · refine .inr ?_
    by_cases hvalid : shiftBy c.toNat runs < 0x110000
    · by_contra hseparates
      obtain ⟨range, hrange, hfirst, hlast⟩ :=
        exists_range_of_separatesWords (Bool.not_eq_false _ ▸ hseparates)
      have havoids : run.avoids range = true :=
        List.all_eq_true.mp (List.all_eq_true.mp h run hrun) range hrange
      have houtside := CaseRun.image_of_avoids havoids hn
      rw [CodePoint.toNat_ofNat hvalid, himage] at hfirst hlast
      omega
    · rw [CodePoint.ofNat_of_le (Nat.not_lt.mp hvalid)]
      decide

theorem separatesWords_lowerChar {c d : CodePoint} (h : d ∈ lowerChar c) :
    d = c ∨ separatesWords d = false := by
  have hruns : (lowerRuns.all fun run => separatorRanges.all run.avoids) = true := by
    decide +kernel
  rw [lowerChar] at h
  split at h
  · simp only [List.mem_cons, List.not_mem_nil, or_false] at h
    rcases h with rfl | rfl
    · exact .inr (by decide)
    · exact .inr (by decide)
  · obtain rfl := List.mem_singleton.mp h
    exact separatesWords_shiftBy hruns c

theorem separatesWords_upperChar {c d : CodePoint} (h : d ∈ upperChar c) :
    d = c ∨ separatesWords d = false := by
  have hruns : (upperRuns.all fun run => separatorRanges.all run.avoids) = true := by
    decide +kernel
  have hexpansions : ∀ entry ∈ upperExpansions, ∀ code ∈ entry.2,
      separatesWords (CodePoint.ofNat code) = false := by decide +kernel
  rw [upperChar] at h
  split at h
  · next codes hcodes =>
    obtain ⟨before, after, hsplit, -⟩ := List.lookup_eq_some_iff.mp hcodes
    obtain ⟨code, hcode, rfl⟩ := List.mem_map.mp h
    exact .inr (hexpansions (c.toNat, codes) (by simp [hsplit]) code hcode)
  · obtain rfl := List.mem_singleton.mp h
    exact separatesWords_shiftBy hruns c

theorem mem_of_mem_lower {text : Text} {d : CodePoint} (h : d ∈ lower text)
    (hseparates : separatesWords d = true) : d ∈ text := by
  rcases mem_lowerAfter h with rfl | rfl | ⟨c, hc, hd⟩
  · exact absurd hseparates (by decide)
  · exact absurd hseparates (by decide)
  · rcases separatesWords_lowerChar hd with rfl | hother
    · exact hc
    · rw [hother] at hseparates
      cases hseparates

end Clippings.Text
