import Clippings.Filter.Builtin

namespace Clippings.Filter

theorem exists_bound_eq_ok {limit : Text}
    (h : ∀ negative, Binary64.read? limit ≠ some (.infinite negative)) :
    ∃ n, bound limit = .ok n := by
  rw [bound]
  split
  · exact ⟨0, rfl⟩
  · exact ⟨0, rfl⟩
  · next negative hread => exact absurd hread (h negative)
  · exact ⟨_, rfl⟩

theorem clampBound_zero (length : Nat) : clampBound length 0 = 0 := by simp [clampBound]

theorem clampBound_le (length : Nat) (n : Int) : clampBound length n ≤ length := by
  rw [clampBound]
  split <;> omega

theorem cutOut_to (text : Text) (n : Int) :
    cutOut text 0 (some n) = text.take (clampBound text.length n) := by
  rw [cutOut, clampBound_zero, List.drop_zero]

theorem cutOut_from (text : Text) (n : Int) :
    cutOut text n none = text.drop (clampBound text.length n) := rfl

theorem cutOut_append (text : Text) (n : Int) :
    cutOut text 0 (some n) ++ cutOut text n none = text := by
  rw [cutOut_to, cutOut_from, List.take_append_drop]

theorem length_cutOut_to (text : Text) (n : Int) :
    (cutOut text 0 (some n)).length = clampBound text.length n := by
  rw [cutOut_to, List.length_take, Nat.min_eq_left (clampBound_le text.length n)]

variable {runtime : Runtime}

theorem run_cut_to {value : Value} {text limit : Text} {n : Int}
    (hvalue : value.displayed runtime = .ok text) (hlimit : limit ≠ [])
    (hbound : bound limit = .ok n) :
    (cut runtime).run value ["0", limit] = .ok (.text (cutOut text 0 (some n))) := by
  obtain ⟨c, rest, rfl⟩ := List.exists_cons_of_ne_nil hlimit
  have hzero : bound "0" = .ok 0 := rfl
  show slice runtime value ["0", c :: rest] = _
  simp only [slice, hvalue, List.drop_one, List.tail_cons, List.head?_cons, hbound,
    Option.getD_some, hzero]
  rfl

theorem run_cut_from {value : Value} {text limit : Text} {n : Int}
    (hvalue : value.displayed runtime = .ok text) (hbound : bound limit = .ok n) :
    (cut runtime).run value [limit] = .ok (.text (cutOut text n none)) := by
  show slice runtime value [limit] = _
  simp only [slice, hvalue, List.drop_one, List.tail_cons, List.head?_nil, List.head?_cons,
    Option.getD_some, hbound]
  rfl

/-- Cutting at a bound loses no character and repeats none: whatever the bound is, negative, beyond
the text, with a fraction or no number, what is cut out up to it and what is cut out from it on make
up the text of the value. A value without a text fails in both cases. -/
theorem run_cut_append (value : Value) {limit : Text} (hlimit : limit ≠ [])
    (hfinite : ∀ negative, Binary64.read? limit ≠ some (.infinite negative)) :
    (∃ failure, value.displayed runtime = .error failure ∧
        (cut runtime).run value ["0", limit] = .error failure ∧
          (cut runtime).run value [limit] = .error failure) ∨
      ∃ text front back n, value.displayed runtime = .ok text ∧
        (cut runtime).run value ["0", limit] = .ok (.text front) ∧
        (cut runtime).run value [limit] = .ok (.text back) ∧ front ++ back = text ∧
        bound limit = .ok n ∧ front.length = clampBound text.length n := by
  cases hvalue : value.displayed runtime with
  | error failure =>
      refine .inl ⟨failure, rfl, ?_, ?_⟩
      · show slice runtime value ["0", limit] = _
        rw [slice, hvalue]
        rfl
      · show slice runtime value [limit] = _
        rw [slice, hvalue]
        rfl
  | ok text =>
      obtain ⟨n, hbound⟩ := exists_bound_eq_ok hfinite
      exact .inr ⟨text, cutOut text 0 (some n), cutOut text n none, n, rfl,
        run_cut_to hvalue hlimit hbound, run_cut_from hvalue hbound, cutOut_append text n, hbound,
        length_cutOut_to text n⟩

theorem run_cut_append_fraction :
    ("-2.5" : Text) ≠ [] ∧
      (∀ negative, Binary64.read? "-2.5" ≠ some (.infinite negative)) ∧
      ∃ front back, (cut {}).run (.list [.int 1, .int 23]) ["0", "-2.5"] = .ok (.text front) ∧
        (cut {}).run (.list [.int 1, .int 23]) ["-2.5"] = .ok (.text back) ∧
        front ++ back = "1, 23" ∧ front.length = 3 := by
  have hlimit : ("-2.5" : Text) ≠ [] := by decide
  have hread : Binary64.read? "-2.5" = some (.finite true 5629499534213120 (-51)) := rfl
  have hfinite : ∀ negative, Binary64.read? "-2.5" ≠ some (.infinite negative) := by
    intro negative h
    rw [hread] at h
    cases h
  refine ⟨hlimit, hfinite, ?_⟩
  obtain ⟨failure, hfailure, -⟩ | ⟨text, front, back, n, htext, hfront, hback, happend, hn, hcut⟩ :=
    @run_cut_append {} (.list [.int 1, .int 23]) _ hlimit hfinite
  · cases hfailure
  · obtain rfl : "1, 23" = text := Except.ok.inj htext
    obtain rfl : -2 = n := Except.ok.inj hn
    exact ⟨front, back, hfront, hback, happend, hcut⟩

end Clippings.Filter
