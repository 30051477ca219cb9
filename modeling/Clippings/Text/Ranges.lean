namespace Clippings.Text

/-- Whether a number lies in one of some ranges, which ascend and do not overlap. -/
def inRanges (n : Nat) : List (Nat × Nat) → Bool
  | [] => false
  | (first, last) :: rest => if n < first then false else n ≤ last || inRanges n rest

theorem mem_of_inRanges {n : Nat} {ranges : List (Nat × Nat)} (h : inRanges n ranges = true) :
    ∃ range ∈ ranges, range.1 ≤ n ∧ n ≤ range.2 := by
  induction ranges with
  | nil => simp [inRanges] at h
  | cons range rest ih =>
      obtain ⟨first, last⟩ := range
      by_cases below : n < first
      · simp [inRanges, below] at h
      · simp only [inRanges, below, if_false, Bool.or_eq_true, decide_eq_true_eq] at h
        rcases h with within | later
        · exact ⟨(first, last), by simp, by omega, within⟩
        · obtain ⟨range, mem, bounds⟩ := ih later
          exact ⟨range, by simp [mem], bounds⟩

end Clippings.Text
