import Clippings.Text.Case
import Mathlib.Data.List.Basic

namespace Clippings.Text

theorem CaseRun.bounds_of_has {run : CaseRun} {n : Nat} (h : run.has n = true) :
    run.first ≤ n ∧ n ≤ run.last ∧ (n - run.first) % run.step = 0 := by
  simp only [has, Bool.and_eq_true, decide_eq_true_eq, beq_iff_eq] at h
  exact ⟨h.1.1, h.1.2, h.2⟩

theorem shiftBy_cases (n : Nat) (runs : List CaseRun) :
    shiftBy n runs = n ∨ ∃ run ∈ runs, run.has n = true ∧
      shiftBy n runs = ((n : Int) + run.shift).toNat := by
  induction runs with
  | nil => exact .inl rfl
  | cons run rest ih =>
      rw [shiftBy]
      split
      · next hrun => exact .inr ⟨run, by simp, hrun, rfl⟩
      · rcases ih with hsame | ⟨other, hother, hshift⟩
        · exact .inl hsame
        · exact .inr ⟨other, by simp [hother], hshift⟩

theorem letters_lowerRuns : ∀ run ∈ lowerRuns, 0x61 ≤ (run.first : Int) + run.shift ∧
    ((run.last : Int) + run.shift < 0xD800 ∨
      0xDFFF < (run.first : Int) + run.shift ∧ (run.last : Int) + run.shift < 0x110000) := by
  decide +kernel

theorem shiftBy_lowerRuns_cases (n : Nat) :
    shiftBy n lowerRuns = n ∨
      0x61 ≤ shiftBy n lowerRuns ∧ shiftBy n lowerRuns < 0x110000 := by
  rcases shiftBy_cases n lowerRuns with hsame | ⟨run, hrun, hn, hshift⟩
  · exact .inl hsame
  · obtain ⟨hfirst, hlast, -⟩ := CaseRun.bounds_of_has hn
    obtain ⟨hletter, hvalid⟩ := letters_lowerRuns run hrun
    exact .inr ⟨by omega, by omega⟩

theorem mem_lowerChar {c d : CodePoint} (h : d ∈ lowerChar c) : d = c ∨ 'a' ≤ d := by
  rw [lowerChar] at h
  split at h
  · simp only [List.mem_cons, List.not_mem_nil, or_false] at h
    rcases h with rfl | rfl
    · exact .inr (by decide)
    · exact .inr (by decide)
  · obtain rfl := List.mem_singleton.mp h
    rcases shiftBy_lowerRuns_cases c.toNat with hsame | ⟨hletter, hvalid⟩
    · rw [hsame, CodePoint.ofNat_toNat]
      exact .inl rfl
    · refine .inr ?_
      show 0x61 ≤ (CodePoint.ofNat (shiftBy c.toNat lowerRuns)).toNat
      rwa [CodePoint.toNat_ofNat hvalid]

theorem lowerChar_ne_nil (c : CodePoint) : lowerChar c ≠ [] := by
  rw [lowerChar]
  split <;> simp

theorem lowerAfter_cons (before : Text) (c : CodePoint) (rest : Text) :
    ∃ front, front ≠ [] ∧ (∀ d ∈ front, d = c ∨ 'a' ≤ d) ∧
      lowerAfter before (c :: rest) = front ++ lowerAfter (c :: before) rest := by
  rw [lowerAfter]
  split
  · refine ⟨_, by simp, ?_, rfl⟩
    intro d hd
    obtain rfl := List.mem_singleton.mp hd
    split
    · exact .inr (by decide)
    · exact .inr (by decide)
  · exact ⟨lowerChar c, lowerChar_ne_nil c, fun d hd => mem_lowerChar hd, rfl⟩

theorem lower_ne_nil {text : Text} (h : text ≠ []) : lower text ≠ [] := by
  cases text with
  | nil => exact absurd rfl h
  | cons c rest =>
      obtain ⟨front, hne, -, hlower⟩ := lowerAfter_cons [] c rest
      rw [lower, hlower]
      exact List.append_ne_nil_of_left_ne_nil hne _

theorem head?_lower {text : Text} {d : CodePoint} (h : d ∈ (lower text).head?) :
    d ∈ text.head? ∨ 'a' ≤ d := by
  cases text with
  | nil => cases h
  | cons c rest =>
      obtain ⟨front, hne, hfront, hlower⟩ := lowerAfter_cons [] c rest
      rw [lower, hlower, List.head?_append_of_ne_nil _ hne] at h
      rcases hfront d (List.mem_of_mem_head? h) with rfl | hletter
      · exact .inl rfl
      · exact .inr hletter

/-- Characters that do not belong to words: to the lower case of what is around them they are like
the end of the text. -/
structure EndsWord (c : CodePoint) : Prop where
  counts : inRanges c.toNat caseIgnorableRanges = false
  uncased : inRanges c.toNat casedRanges = false
  lowerChar_eq : lowerChar c = [c]

theorem endsWord_hyphen : EndsWord '-' := ⟨by decide, by decide, by decide +kernel⟩

theorem endsWord_underscore : EndsWord '_' := ⟨by decide, by decide, by decide +kernel⟩

namespace EndsWord

variable {c : CodePoint}

theorem ne_sigma (h : EndsWord c) : c ≠ 'Σ' := by
  rintro rfl
  exact absurd h.uncased (by decide)

theorem startsCased_cons (h : EndsWord c) (rest : Text) : startsCased (c :: rest) = false := by
  simp [startsCased, h.counts, h.uncased]

theorem startsCased_append (h : EndsWord c) (text rest : Text) :
    startsCased (text ++ c :: rest) = startsCased text := by
  induction text with
  | nil => exact h.startsCased_cons rest
  | cons d text ih => rw [List.cons_append, startsCased, startsCased, ih]

end EndsWord

theorem lowerAfter_congr {before other : Text} (h : startsCased before = startsCased other)
    (text : Text) : lowerAfter before text = lowerAfter other text := by
  induction text generalizing before other with
  | nil => rfl
  | cons c rest ih =>
      have hnext : startsCased (c :: before) = startsCased (c :: other) := by
        rw [startsCased, startsCased, h]
      rw [lowerAfter, lowerAfter, h, ih hnext]

theorem EndsWord.lowerAfter_append {c : CodePoint} (h : EndsWord c) (before text rest : Text) :
    lowerAfter before (text ++ c :: rest) = lowerAfter before text ++ c :: lower rest := by
  induction text generalizing before with
  | nil =>
      have hrest : lowerAfter (c :: before) rest = lower rest :=
        lowerAfter_congr (h.startsCased_cons before) rest
      show lowerAfter before (c :: rest) = c :: lower rest
      rw [lowerAfter, if_neg h.ne_sigma, h.lowerChar_eq, hrest]
      rfl
  | cons d text ih =>
      rw [List.cons_append, lowerAfter, lowerAfter, h.startsCased_append, ih, List.append_assoc]

theorem EndsWord.lower_append {c : CodePoint} (h : EndsWord c) (text rest : Text) :
    lower (text ++ c :: rest) = lower text ++ c :: lower rest :=
  h.lowerAfter_append [] text rest

theorem EndsWord.lower_cons {c : CodePoint} (h : EndsWord c) (rest : Text) :
    lower (c :: rest) = c :: lower rest := h.lower_append [] rest

theorem EndsWord.lower_replicate_append {c : CodePoint} (h : EndsWord c) (n : Nat) (rest : Text) :
    lower (List.replicate n c ++ rest) = List.replicate n c ++ lower rest := by
  induction n with
  | zero => rfl
  | succ n ih =>
      rw [List.replicate_succ, List.cons_append, List.cons_append, ← ih]
      exact h.lower_cons _

theorem EndsWord.lower_replicate {c : CodePoint} (h : EndsWord c) (n : Nat) :
    lower (List.replicate n c) = List.replicate n c := by
  have happend := h.lower_replicate_append n []
  rw [List.append_nil] at happend
  rw [happend]
  simp [lower, lowerAfter]

def hyphenate (text : Text) : Text := text.map fun c => if c = .char '_' then .char '-' else c

theorem startsCased_hyphenate (text : Text) : startsCased (hyphenate text) = startsCased text := by
  induction text with
  | nil => rfl
  | cons c rest ih =>
      by_cases hc : c = '_'
      · subst hc
        rw [endsWord_underscore.startsCased_cons]
        exact endsWord_hyphen.startsCased_cons _
      · rw [hyphenate, List.map_cons, if_neg hc, startsCased, startsCased, ← hyphenate, ih]

theorem hyphenate_eq_self {text : Text} (h : .char '_' ∉ text) : hyphenate text = text := by
  rw [hyphenate]
  conv_rhs => rw [← List.map_id text]
  refine List.map_congr_left fun c hc => if_neg ?_
  rintro rfl
  exact h hc

theorem hyphenate_append (text rest : Text) :
    hyphenate (text ++ rest) = hyphenate text ++ hyphenate rest := List.map_append

theorem lowerChar_hyphenate {c : CodePoint} (h : c ≠ '_') :
    hyphenate (lowerChar c) = lowerChar c := by
  refine hyphenate_eq_self fun hmem => ?_
  rcases mem_lowerChar hmem with rfl | hletter
  · exact h rfl
  · exact absurd hletter (by decide)

theorem lowerAfter_hyphenate (before text : Text) :
    lowerAfter (hyphenate before) (hyphenate text) = hyphenate (lowerAfter before text) := by
  induction text generalizing before with
  | nil => rfl
  | cons c rest ih =>
      have hrest := ih (c :: before)
      by_cases hc : c = '_'
      · subst hc
        show lowerAfter (hyphenate before) (.char '-' :: hyphenate rest) = _
        rw [lowerAfter, lowerAfter, if_neg endsWord_hyphen.ne_sigma,
          if_neg endsWord_underscore.ne_sigma, hyphenate_append, ← hrest,
          endsWord_hyphen.lowerChar_eq, endsWord_underscore.lowerChar_eq]
        rfl
      · have hcons (text : Text) : hyphenate (c :: text) = c :: hyphenate text := by
          rw [hyphenate, List.map_cons, if_neg hc, ← hyphenate]
        rw [hcons, lowerAfter, lowerAfter, hyphenate_append, ← hrest, hcons,
          startsCased_hyphenate, startsCased_hyphenate]
        congr 1
        split
        · refine (hyphenate_eq_self ?_).symm
          split <;> decide
        · exact (lowerChar_hyphenate hc).symm

theorem lower_hyphenate (text : Text) : lower (hyphenate text) = hyphenate (lower text) :=
  lowerAfter_hyphenate [] text

end Clippings.Text
