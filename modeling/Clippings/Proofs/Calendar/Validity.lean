import Clippings.Calendar.Reading
import Clippings.Proofs.Outcome

namespace Clippings.Calendar

/-- The date of a moment is in the calendar, and its clock shows a time of day. -/
structure Moment.IsValid (moment : Moment) : Prop where
  date : moment.date.isValid = true
  clock : moment.clock.isValid = true

theorem Moment.isValid_of_checked {date : Date} {clock : Clock} {offset : Option Int}
    {moment : Moment} (hdate : date.isValid = true)
    (h : (if clock.isValid then some { date, clock, offset } else none) = some moment) :
    moment.IsValid := by
  obtain ⟨hclock, hmoment⟩ := Option.ite_none_right_eq_some.mp h
  obtain rfl := Option.some.inj hmoment
  exact ⟨hdate, hclock⟩

theorem Clock.isValid_iff (clock : Clock) : clock.isValid = true ↔
    clock.hour < 24 ∧ clock.minute < 60 ∧ clock.second < 60 ∧ clock.microsecond < 1000000 := by
  simp [isValid, and_assoc]

namespace Date

theorem isValid_of_ofNumbers? {year month day : Nat} {date : Date}
    (h : ofNumbers? year month day = some date) : date.isValid = true := by
  obtain ⟨hvalid, hdate⟩ := Option.ite_none_right_eq_some.mp h
  rwa [← Option.some.inj hdate]

theorem isValid_of_ofOrdinal? {n : Int} {date : Date} (h : ofOrdinal? n = some date) :
    date.isValid = true := by
  obtain ⟨-, hdate⟩ := Option.ite_none_left_eq_some.mp h
  exact isValid_of_ofNumbers? hdate

theorem isValid_of_ofWeek? {year week day : Nat} {date : Date}
    (h : ofWeek? year week day = some date) : date.isValid = true := by
  obtain ⟨-, h⟩ := Option.ite_none_left_eq_some.mp h
  obtain ⟨-, h⟩ := Option.ite_none_left_eq_some.mp h
  obtain ⟨-, h⟩ := Option.ite_none_left_eq_some.mp h
  exact isValid_of_ofOrdinal? h

end Date

namespace Iso

theorem isValid_of_weekDate? {dashed : Bool} {year room : Nat} {text : Text} {date : Date}
    (h : weekDate? dashed year room text = some date) : date.isValid = true := by
  obtain ⟨⟨week, rest⟩, -, h⟩ := Option.bind_eq_some_iff.mp h
  simp only at h
  split at h
  · exact Date.isValid_of_ofWeek? h
  · obtain ⟨behind, -, h⟩ := Option.bind_eq_some_iff.mp h
    obtain ⟨⟨day, _⟩, -, h⟩ := Option.bind_eq_some_iff.mp h
    exact Date.isValid_of_ofWeek? h

theorem isValid_of_date? {length : Nat} {text : Text} {date : Date}
    (h : date? length text = some date) : date.isValid = true := by
  obtain ⟨⟨year, rest⟩, -, h⟩ := Option.bind_eq_some_iff.mp h
  simp only at h
  split at h
  · exact isValid_of_weekDate? h
  · obtain ⟨⟨month, behind⟩, -, h⟩ := Option.bind_eq_some_iff.mp h
    obtain ⟨undashed, -, h⟩ := Option.bind_eq_some_iff.mp h
    obtain ⟨⟨day, _⟩, -, h⟩ := Option.bind_eq_some_iff.mp h
    obtain ⟨-, hdate⟩ := Option.ite_none_right_eq_some.mp h
    exact Date.isValid_of_ofNumbers? hdate

theorem isValid_of_read? {text : Text} {moment : Moment} (h : read? text = some moment) :
    moment.IsValid := by
  obtain ⟨length, -, h⟩ := Option.bind_eq_some_iff.mp h
  obtain ⟨date, hdate, h⟩ := Option.bind_eq_some_iff.mp h
  simp only at h
  split at h
  · obtain rfl := Option.some.inj h
    exact ⟨isValid_of_date? hdate, rfl⟩
  · obtain ⟨⟨clock, offset⟩, -, h⟩ := Option.bind_eq_some_iff.mp h
    exact Moment.isValid_of_checked (isValid_of_date? hdate) h

end Iso

theorem Mail.Reading.isValid_of_moment? {reading : Mail.Reading} {moment : Moment}
    (h : reading.moment? = .ok (some moment)) : moment.IsValid := by
  rw [Mail.Reading.moment?] at h
  split at h
  case' h_1 seconds _ =>
    obtain ⟨_, -, h⟩ := Except.exists_of_bind_eq_ok h
    have hshort : ¬ 86400 ≤ seconds.natAbs := by
      intro hlong
      rw [if_pos hlong] at h
      cases h
    rw [if_neg hshort] at h
  -- With an offset and without one, the numbers make a moment in the same way.
  all_goals
    obtain ⟨year, -, h⟩ := Except.exists_of_bind_eq_ok h
    obtain ⟨day, -, h⟩ := Except.exists_of_bind_eq_ok h
    obtain ⟨hour, -, h⟩ := Except.exists_of_bind_eq_ok h
    obtain ⟨minute, -, h⟩ := Except.exists_of_bind_eq_ok h
    obtain ⟨second, -, h⟩ := Except.exists_of_bind_eq_ok h
    have hmoment := Except.ok.inj h
    obtain ⟨_, -, hmoment⟩ := Option.bind_eq_some_iff.mp hmoment
    obtain ⟨_, -, hmoment⟩ := Option.bind_eq_some_iff.mp hmoment
    obtain ⟨date, hdate, hmoment⟩ := Option.bind_eq_some_iff.mp hmoment
    obtain ⟨_, -, hmoment⟩ := Option.bind_eq_some_iff.mp hmoment
    obtain ⟨_, -, hmoment⟩ := Option.bind_eq_some_iff.mp hmoment
    obtain ⟨_, -, hmoment⟩ := Option.bind_eq_some_iff.mp hmoment
    exact Moment.isValid_of_checked (Date.isValid_of_ofNumbers? hdate) hmoment

theorem Mail.isValid_of_moment? {text : Text} {moment : Moment}
    (h : Mail.moment? text = .ok (some moment)) : moment.IsValid := by
  rw [Mail.moment?] at h
  split at h
  · cases h
  · exact Reading.isValid_of_moment? h

namespace Written

theorem isValid_of_moment? {fields : List (Part × Text)} {moment : Moment}
    (h : moment? fields = some moment) : moment.IsValid := by
  obtain ⟨year, -, h⟩ := Option.bind_eq_some_iff.mp h
  obtain ⟨month, -, h⟩ := Option.bind_eq_some_iff.mp h
  obtain ⟨day, -, h⟩ := Option.bind_eq_some_iff.mp h
  obtain ⟨date, hdate, h⟩ := Option.bind_eq_some_iff.mp h
  exact Moment.isValid_of_checked (Date.isValid_of_ofNumbers? hdate) h

theorem isValid_of_read? {text : Text} {moment : Moment} (h : read? text = some moment) :
    moment.IsValid := by
  obtain ⟨parts, -, hparts⟩ := List.exists_of_findSome?_eq_some h
  obtain ⟨fields, -, hmoment⟩ := Option.bind_eq_some_iff.mp hparts
  exact isValid_of_moment? hmoment

end Written

theorem isValid_of_readDate {text : Text} {moment : Moment}
    (h : readDate text = .ok (some moment)) : moment.IsValid := by
  rw [readDate] at h
  split at h
  · next read hread =>
    obtain rfl := Option.some.inj (Except.ok.inj h)
    exact Iso.isValid_of_read? hread
  · obtain ⟨mailed, hmailed, h⟩ := Except.exists_of_bind_eq_ok h
    split at h
    · obtain rfl := Option.some.inj (Except.ok.inj h)
      exact Mail.isValid_of_moment? hmailed
    · exact Written.isValid_of_read? (Except.ok.inj h)

theorem Clock.isValid_ofMicroseconds {n : Nat} (h : n < microsecondsPerDay) :
    (Clock.ofMicroseconds n).isValid = true := by
  rw [microsecondsPerDay] at h
  rw [isValid_iff]
  simp only [ofMicroseconds]
  omega

theorem Moment.isValid_of_ofMicroseconds? {n : Int} {moment : Moment}
    (h : ofMicroseconds? n = some moment) : moment.IsValid := by
  obtain ⟨date, hdate, h⟩ := Option.bind_eq_some_iff.mp h
  obtain rfl := Option.some.inj h
  have hday : (0 : Int) < microsecondsPerDay := by decide
  have hclock := Int.fmod_lt_of_pos n hday
  have hpositive := Int.fmod_nonneg_of_pos n hday
  exact ⟨Date.isValid_of_ofOrdinal? hdate, Clock.isValid_ofMicroseconds (by omega)⟩

theorem isValid_of_universal {moment universal : Moment} (hmoment : moment.IsValid)
    (h : Calendar.universal moment = .ok universal) : universal.IsValid := by
  rw [Calendar.universal] at h
  split at h
  · next same hsame =>
    obtain rfl := Except.ok.inj h
    rw [Moment.toUniversal?] at hsame
    split at hsame
    · obtain rfl := Option.some.inj hsame
      exact hmoment
    · exact Moment.isValid_of_ofMicroseconds? hsame
  · cases h

theorem isValid_of_readUniversal {text : Text} {moment : Moment}
    (h : readUniversal text = .ok (some moment)) : moment.IsValid := by
  rw [readUniversal] at h
  split at h
  · cases h
  · obtain ⟨read, hread, h⟩ := Except.exists_of_bind_eq_ok h
    split at h
    · obtain ⟨universal, huniversal, h⟩ := Except.exists_of_bind_eq_ok h
      obtain rfl := Option.some.inj (Except.ok.inj h)
      exact isValid_of_universal (isValid_of_readDate hread) huniversal
    · cases h

end Clippings.Calendar
