import Clippings.Filter.Builtin
import Clippings.Proofs.Calendar.Notation

namespace Clippings

/-- A value that is a date is a day of the calendar, and one that is a moment has a time of day
too. -/
def Value.IsDated : Value → Prop
  | .date d => d.isValid = true
  | .moment m => m.IsValid
  | _ => True

theorem Value.isValid_of_moment? {value : Value} (hvalue : value.IsDated)
    {moment : Calendar.Moment} (h : value.moment? = .ok (some moment)) : moment.IsValid := by
  rw [moment?.eq_def] at h
  split at h
  · obtain ⟨universal, huniversal, h⟩ := Except.exists_of_bind_eq_ok h
    obtain rfl := Option.some.inj (Except.ok.inj h)
    exact Calendar.isValid_of_universal hvalue huniversal
  · obtain rfl := Option.some.inj (Except.ok.inj h)
    exact ⟨hvalue, rfl⟩
  · exact Calendar.isValid_of_readUniversal h
  · cases h

namespace Filter

theorem run_date (value : Value) (fmt : Text) :
    date.run value [fmt] = match value.moment? with
      | .error e => .error (.dateRange e)
      | .ok none => .ok value
      | .ok (some moment) => .ok (.text (Calendar.format moment fmt)) := rfl

theorem run_date_default (value : Value) : date.run value [] = date.run value ["YYYY-MM-DD"] := rfl

/-- Showing a value by one format and then by another gives what the second format shows of the
value, if every moment that the value names is read back from the first as one that the second
cannot tell from it. -/
theorem run_date_of_shown {value : Value} {first second : Text}
    (h : ∀ moment, value.moment? = .ok (some moment) → ∃ shown : Calendar.Moment,
      Calendar.readUniversal (Calendar.format moment first) = .ok (some shown) ∧
        Calendar.format shown second = Calendar.format moment second) :
    (do date.run (← date.run value [first]) [second]) = date.run value [second] := by
  cases hmoment : value.moment? with
  | error e =>
      rw [run_date value first, run_date value second, hmoment]
      rfl
  | ok named =>
      cases named with
      | none =>
          rw [run_date value first, hmoment]
          rfl
      | some moment =>
          obtain ⟨shown, hread, hformat⟩ := h moment hmoment
          rw [run_date value first, run_date value second, hmoment]
          show date.run (.text (Calendar.format moment first)) [second] =
            .ok (.text (Calendar.format moment second))
          have hshown : (Value.text (Calendar.format moment first)).moment? = .ok (some shown) :=
            hread
          rw [run_date, hshown, ← hformat]

/-- Showing a date to the second first loses nothing that a format can show, and the format that is
used without one changes nothing the second time. -/
theorem run_date_normal {value : Value} (hvalue : value.IsDated) (fmt : Text) :
    (do date.run (← date.run value ["YYYY-MM-DDTHH:mm:ss"]) [fmt]) = date.run value [fmt] ∧
      (do date.run (← date.run value []) []) = date.run value [] := by
  constructor
  · apply run_date_of_shown
    intro moment hmoment
    refine ⟨moment.toSecond, ?_, Calendar.format_toSecond moment fmt⟩
    rw [Calendar.format_normal]
    exact Calendar.readUniversal_momentText (Value.isValid_of_moment? hvalue hmoment)
  · simp only [run_date_default]
    apply run_date_of_shown
    intro moment hmoment
    refine ⟨{ date := moment.date }, ?_, ?_⟩
    · rw [Calendar.format_default]
      exact Calendar.readUniversal_dateText (Value.isValid_of_moment? hvalue hmoment).date
    · rw [Calendar.format_default, Calendar.format_default]

theorem run_date_normal_offset :
    (Value.moment ⟨⟨2023, 12, 31⟩, ⟨23, 59, 59, 999999⟩, some (-5400000000)⟩).IsDated ∧
      (do date.run (← date.run (.moment ⟨⟨2023, 12, 31⟩, ⟨23, 59, 59, 999999⟩, some (-5400000000)⟩)
          ["YYYY-MM-DDTHH:mm:ss"]) ["DD.MM.YYYY HH:mm:ss"]) =
        .ok (.text "01.01.2024 01:29:59") ∧
      (do date.run (← date.run (.moment ⟨⟨2023, 12, 31⟩, ⟨23, 59, 59, 999999⟩, some (-5400000000)⟩)
          []) []) = .ok (.text "2024-01-01") := by
  have hdated : (Value.moment ⟨⟨2023, 12, 31⟩, ⟨23, 59, 59, 999999⟩, some (-5400000000)⟩).IsDated :=
    ⟨by decide, by decide⟩
  obtain ⟨hnormal, hdefault⟩ := run_date_normal hdated "DD.MM.YYYY HH:mm:ss"
  exact ⟨hdated, hnormal.trans rfl, hdefault.trans rfl⟩

end Filter

end Clippings
