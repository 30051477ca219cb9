import Clippings.Proofs.Expression.Pieces
import Mathlib.Order.Bounds.Basic
import Mathlib.Order.Nat

namespace Clippings.FilterCall

/-- The colon at a position can end a name: it stands behind no backslash, and what is before it
leaves no quote open. -/
def EndsName (segment : Text) (position : Nat) : Prop :=
  segment[position]? = some (.char ':') ∧ (segment.take position).getLast? ≠ some (.char '\\') ∧
    (Scan.split Scan.bars (segment.take position)).2.inQuotes = false

instance (segment : Text) : DecidablePred (EndsName segment) := fun _ =>
  inferInstanceAs (Decidable (_ ∧ _ ∧ _))

theorem endsName_length {front rest : Text} {c : CodePoint} :
    EndsName (front ++ c :: rest) front.length ↔
      c = ':' ∧ front.getLast? ≠ some (.char '\\') ∧
        (Scan.split Scan.bars front).2.inQuotes = false := by
  simp [EndsName]

theorem quote_step_of_passed {state : ScanState} {before : Option CodePoint} {c : CodePoint}
    (h : ¬ (isQuote c = true ∧ before ≠ some (.char '\\'))) :
    (state.step before c).quote = state.quote := by
  rw [ScanState.step, if_neg (by simpa using h)]
  split_ifs <;> rfl

theorem separatorFrom?_cons (state : ScanState) (before : Option CodePoint) (position : Nat)
    (c : CodePoint) (rest : Text) :
    separatorFrom? before state.quote position (c :: rest) =
      if c = ':' ∧ before ≠ some (.char '\\') ∧ state.inQuotes = false then some position
      else separatorFrom? (some c) (state.step before c).quote (position + 1) rest := by
  obtain ⟨quote, depth⟩ := state
  by_cases hescaped : before = some (.char '\\')
  · rw [quote_step_of_passed (by simp [hescaped])]
    simp [separatorFrom?, hescaped]
  · by_cases hquote : isQuote c = true
    · have hcolon : c ≠ ':' := by
        rintro rfl
        simp [isQuote] at hquote
      cases quote with
      | none => simp [separatorFrom?, ScanState.step, hescaped, hquote, hcolon]
      | some open_ =>
          by_cases hsame : c = open_
          · subst hsame
            simp [separatorFrom?, ScanState.step, hescaped, hquote, hcolon]
          · simp [separatorFrom?, ScanState.step, hescaped, hquote, hcolon, hsame]
    · rw [quote_step_of_passed (by simp [hquote])]
      simp [separatorFrom?, hescaped, hquote, ScanState.inQuotes]

theorem separatorFrom?_eq_some_iff (front rest : Text) (position : Nat) :
    separatorFrom? front.getLast? (Scan.split Scan.bars front).2.quote front.length rest =
        some position ↔
      IsLeast {i | front.length ≤ i ∧ EndsName (front ++ rest) i} position := by
  -- The front grows by the character that was passed over, and the places where the name can end
  -- are always those of the same segment.
  induction rest generalizing front with
  | nil =>
      have hnone : {i | front.length ≤ i ∧ EndsName (front ++ []) i} = ∅ := by
        ext i
        simp only [List.append_nil, Set.mem_ofPred_eq, Set.mem_empty_iff_false, iff_false, not_and]
        rintro hi ⟨hcolon, -⟩
        rw [List.getElem?_eq_none hi] at hcolon
        cases hcolon
      rw [hnone]
      simp [separatorFrom?, IsLeast]
  | cons c rest ih =>
      rw [separatorFrom?_cons]
      by_cases hends : EndsName (front ++ c :: rest) front.length
      · have hleast : IsLeast {i | front.length ≤ i ∧ EndsName (front ++ c :: rest) i}
            front.length := ⟨⟨le_rfl, hends⟩, fun i hi => hi.1⟩
        rw [if_pos (endsName_length.mp hends), hleast.isLeast_iff_eq, Option.some.injEq]
      · have hbehind := ih (front ++ [c])
        have hset : {i | front.length ≤ i ∧ EndsName (front ++ c :: rest) i} =
            {i | (front ++ [c]).length ≤ i ∧ EndsName (front ++ [c] ++ rest) i} := by
          ext i
          simp only [List.append_assoc, List.singleton_append, List.length_append,
            List.length_singleton, Set.mem_ofPred_eq, and_congr_left_iff]
          intro hi
          have hne : front.length ≠ i := by
            rintro rfl
            exact hends hi
          omega
        rw [if_neg (mt endsName_length.mpr hends), hset, ← hbehind, Scan.split_concat_snd,
          List.getLast?_concat, List.length_append, List.length_singleton]

/-- The name of a filter ends at the first colon that can end it, and it is the whole segment if no
colon can. -/
theorem separator?_isLeast (segment : Text) :
    (∀ position, separator? segment = some position ↔
        IsLeast {i | EndsName segment i} position) ∧
      (separator? segment = none ↔ ∀ i, ¬ EndsName segment i) := by
  have hsome (position : Nat) :
      separator? segment = some position ↔ IsLeast {i | EndsName segment i} position := by
    have hstart := separatorFrom?_eq_some_iff [] segment position
    simp only [List.length_nil, Nat.zero_le, true_and, List.nil_append] at hstart
    exact hstart
  refine ⟨hsome, ?_, ?_⟩
  · intro hnone i hi
    have hfound := (hsome _).mpr (Nat.isLeast_find ⟨i, hi⟩)
    rw [hnone] at hfound
    cases hfound
  · intro hends
    rw [Option.eq_none_iff_forall_not_mem]
    intro i hi
    exact hends i ((hsome i).mp hi).1

-- A colon behind a backslash, one between quotes, and one behind a parenthesis that is open.
example : separator? "f\\:(':':x" = some 7 := by decide

end Clippings.FilterCall
