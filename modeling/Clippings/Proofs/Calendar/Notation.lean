import Clippings.Proofs.Calendar.Validity
import Clippings.Proofs.Number.Digits

namespace Clippings

namespace Text

theorem length_ofNatPadded {width n : Nat} (hwidth : 0 < width) (hn : n < 10 ^ width) :
    (ofNatPadded width n).length = width := by
  rw [ofNatPadded, padLeft, List.length_append, List.length_replicate,
    Nat.sub_add_cancel (length_ofNat_le hwidth hn)]

theorem isDigit_of_mem_ofNatPadded {width n : Nat} {c : CodePoint} (h : c ∈ ofNatPadded width n) :
    c.isDigit = true := by
  rcases List.mem_append.mp h with hfill | hdigit
  · rw [List.eq_of_mem_replicate hfill]
    rfl
  · exact isDigit_of_mem_ofNat hdigit

theorem exists_ofNatPadded_eq_cons (width n : Nat) :
    ∃ d digits, ofNatPadded width n = d :: digits ∧ d.isDigit = true := by
  cases hdigits : ofNatPadded width n with
  | nil =>
      have hnone : ofNat n = [] := (List.append_eq_nil_iff.mp hdigits).2
      exact absurd hnone (ofNat_ne_nil _)
  | cons d digits => exact ⟨d, digits, rfl, isDigit_of_mem_ofNatPadded (by rw [hdigits]; simp)⟩

theorem isDigit_of_head?_of_prefix {width n : Nat} {text : Text} (h : ofNatPadded width n <+: text)
    {c : CodePoint} (hc : c ∈ text.head?) : c.isDigit = true := by
  obtain ⟨d, digits, hdigits, hd⟩ := exists_ofNatPadded_eq_cons width n
  obtain ⟨rest, rfl⟩ := h
  rw [hdigits] at hc
  obtain rfl := Option.some.inj hc
  exact hd

theorem isDigit_of_getLast?_of_suffix {width n : Nat} {text : Text}
    (h : ofNatPadded width n <:+ text) {c : CodePoint} (hc : c ∈ text.getLast?) :
      c.isDigit = true := by
  obtain ⟨d, digits, hdigits, -⟩ := exists_ofNatPadded_eq_cons width n
  obtain ⟨front, rfl⟩ := h
  rw [List.getLast?_append_of_ne_nil _ (by simp [hdigits])] at hc
  exact isDigit_of_mem_ofNatPadded (List.mem_of_getLast? hc)

theorem natOfText_zeros_append (count : Nat) (digits : Text) :
    natOfText (List.replicate count (.char '0') ++ digits) = natOfText digits := by
  induction count with
  | zero => rfl
  | succ count ih => exact ih

theorem natOfText_ofNatPadded (width n : Nat) : natOfText (ofNatPadded width n) = n :=
  (natOfText_zeros_append _ _).trans (natOfText_ofNat n)

end Text

namespace Calendar

namespace Iso

theorem digits?_append {digits : Text} (h : ∀ c ∈ digits, c.isDigit = true) (rest : Text) :
    digits? digits.length (digits ++ rest) = some (Text.natOfText digits, rest) := by
  have hgo (n : Nat) : digits?.go n digits.length (digits ++ rest) =
      some (digits.foldl (fun n c => 10 * n + (c.toNat - 48)) n, rest) := by
    induction digits generalizing n with
    | nil => rfl
    | cons c digits ih =>
        obtain ⟨hc, hdigits⟩ := List.forall_mem_cons.mp h
        rw [List.length_cons, List.cons_append, digits?.go, if_pos hc, ih hdigits, List.foldl_cons]
  rw [digits?, hgo, Text.natOfText, Text.natOfDigits, List.foldl_map]

theorem digits?_ofNatPadded {width n : Nat} (hwidth : 0 < width) (hn : n < 10 ^ width)
    (rest : Text) : digits? width (Text.ofNatPadded width n ++ rest) = some (n, rest) := by
  have hdigits : ∀ c ∈ Text.ofNatPadded width n, c.isDigit = true := fun c hc =>
    Text.isDigit_of_mem_ofNatPadded hc
  have hread := digits?_append hdigits rest
  rwa [Text.length_ofNatPadded hwidth hn, Text.natOfText_ofNatPadded] at hread

end Iso

def Clock.toSecond (clock : Clock) : Clock := { clock with microsecond := 0 }

theorem Clock.isValid_toSecond {clock : Clock} (h : clock.isValid = true) :
    clock.toSecond.isValid = true := by
  obtain ⟨hhour, hminute, hsecond, -⟩ := clock.isValid_iff.mp h
  exact clock.toSecond.isValid_iff.mpr ⟨hhour, hminute, hsecond, Nat.zero_lt_succ _⟩

def Moment.toSecond (moment : Moment) : Moment :=
  { date := moment.date, clock := moment.clock.toSecond }

theorem format_toSecond (moment : Moment) (fmt : Text) :
    format moment.toSecond fmt = format moment fmt := by
  fun_induction format moment fmt <;> simp_all [format, Moment.toSecond, Clock.toSecond]

theorem Date.isValid_iff (date : Date) : date.isValid = true ↔
    (1 ≤ date.year ∧ date.year ≤ maxYear) ∧ (1 ≤ date.month ∧ date.month ≤ 12) ∧
      1 ≤ date.day ∧ date.day ≤ daysInMonth date.year date.month := by
  simp [isValid, and_assoc]

theorem daysInMonth_le (year month : Nat) : daysInMonth year month ≤ 31 := by
  unfold daysInMonth
  split_ifs <;> decide

theorem Date.lt_of_isValid {date : Date} (h : date.isValid = true) :
    date.year < 10 ^ 4 ∧ date.month < 10 ^ 2 ∧ date.day < 10 ^ 2 := by
  have hdays := daysInMonth_le date.year date.month
  rw [isValid_iff, maxYear] at h
  omega

theorem Date.length_text {date : Date} (h : date.isValid = true) : date.text.length = 10 := by
  obtain ⟨hyear, hmonth, hday⟩ := lt_of_isValid h
  simp only [text, List.length_append, List.length_cons, Text.length_ofNatPadded (by decide) hyear,
    Text.length_ofNatPadded (by decide) hmonth, Text.length_ofNatPadded (by decide) hday]

theorem Date.text_append (date : Date) (rest : Text) :
    date.text ++ rest = Text.ofNatPadded 4 date.year ++ .char '-' ::
      (Text.ofNatPadded 2 date.month ++
      .char '-' :: (Text.ofNatPadded 2 date.day ++ rest)) := by
  simp only [text, List.append_assoc, List.cons_append]

namespace Iso

variable {date : Date}

theorem dateLength?_text (h : date.isValid = true) (rest : Text) :
    dateLength? (date.text ++ rest) = some 10 := by
  obtain ⟨hyear, -, -⟩ := date.lt_of_isValid h
  have hlength : 10 ≤ (date.text ++ rest).length := by
    rw [List.length_append, date.length_text h]
    omega
  have hdigits : (Text.ofNatPadded 4 date.year).length = 4 :=
    Text.length_ofNatPadded (by decide) hyear
  have hdash : (date.text ++ rest)[4]? = some (.char '-') := by
    rw [Date.text_append, List.getElem?_append_right hdigits.le, hdigits]
    rfl
  have hweek : (date.text ++ rest)[5]? ≠ some (.char 'W') := by
    obtain ⟨d, digits, hmonth, hd⟩ := Text.exists_ofNatPadded_eq_cons 2 date.month
    rw [Date.text_append, List.getElem?_append_right (by omega), hdigits, hmonth]
    rintro ⟨⟩
    cases hd
  simp only [dateLength?]
  rw [if_neg (by omega), if_neg (by omega), if_pos hdash, if_neg hweek]

theorem date?_text (h : date.isValid = true) (rest : Text) :
    date? 10 (date.text ++ rest) = some date := by
  obtain ⟨hyear, hmonth, hday⟩ := date.lt_of_isValid h
  have hnumbers : Date.ofNumbers? date.year date.month date.day = some date := if_pos h
  rw [Date.text_append, date?, digits?_ofNatPadded (by decide) hyear]
  simp only [Option.bind_eq_bind, Option.bind_some, List.head?_cons, decide_true, if_true,
    List.drop_succ_cons, List.drop_zero]
  split
  · next behind hweek =>
    obtain ⟨d, digits, hdigits, hd⟩ := Text.exists_ofNatPadded_eq_cons 2 date.month
    rw [hdigits] at hweek
    cases hweek
    cases hd
  · rw [digits?_ofNatPadded (by decide) hmonth]
    simp only [Option.bind_some, dash?, Bool.not_true, Bool.false_eq_true, if_false,
      digits?_ofNatPadded (by decide : 0 < 2) hday, hnumbers]

theorem going_colon {rest : Text} (h : rest ≠ []) :
    going true (.char ':' :: rest) = .pair rest := by
  cases rest with
  | nil => exact absurd rfl h
  | cons c rest => rfl

theorem clock?_clockText {clock : Clock} (h : clock.isValid = true) :
    clock? (Moment.clockText clock) = some (clock.toSecond, false) := by
  obtain ⟨hhour, hminute, hsecond, -⟩ := clock.isValid_iff.mp h
  have hread {n : Nat} (hn : n < 60) (rest : Text) :
      digits? 2 (Text.ofNatPadded 2 n ++ rest) = some (n, rest) :=
    digits?_ofNatPadded (by decide) (by omega) rest
  have hseconds : Text.ofNatPadded 2 clock.second ≠ [] := by
    obtain ⟨d, digits, hdigits, -⟩ := Text.exists_ofNatPadded_eq_cons 2 clock.second
    simp [hdigits]
  have hlast : digits? 2 (Text.ofNatPadded 2 clock.second) = some (clock.second, []) := by
    simpa using hread hsecond []
  rw [Moment.clockText, List.append_assoc, List.cons_append, clock?, hread (by omega)]
  simp only [Option.bind_eq_bind, Option.bind_some, List.head?_cons, decide_true]
  rw [going_colon (by simp)]
  simp only [hread hminute, Option.bind_some]
  rw [going_colon hseconds]
  simp only [hlast, Option.bind_some, going]
  rfl

theorem startsZone_of_mem_clockText {clock : Clock} {c : CodePoint}
    (h : c ∈ Moment.clockText clock) : startsZone c = false := by
  have hdigit {n : Nat} (hc : c ∈ Text.ofNatPadded 2 n) : startsZone c = false := by
    obtain ⟨d, hd, rfl⟩ := Text.exists_digitChar (Text.isDigit_of_mem_ofNatPadded hc)
    exact (by decide : ∀ d < 10, startsZone d.digitChar = false) d hd
  simp only [Moment.clockText, List.mem_append, List.mem_cons] at h
  rcases h with (hhour | rfl | hminute) | rfl | hsecond
  · exact hdigit hhour
  · rfl
  · exact hdigit hminute
  · rfl
  · exact hdigit hsecond

theorem time?_clockText {clock : Clock} (h : clock.isValid = true) :
    time? (Moment.clockText clock) = some (clock.toSecond, none) := by
  have hlocal : ∀ c ∈ Moment.clockText clock, (!startsZone c) = true := fun c hc => by
    rw [startsZone_of_mem_clockText hc]
    rfl
  rw [time?, List.takeWhile_eq_self_iff.mpr hlocal, List.dropWhile_eq_nil_iff.mpr hlocal,
    clock?_clockText h]
  rfl

theorem read?_dateText (h : date.isValid = true) : read? date.text = some { date } := by
  have hlength := dateLength?_text h []
  have hdate := date?_text h []
  have hrest : date.text.drop 10 = [] := List.drop_eq_nil_of_le (date.length_text h).le
  rw [List.append_nil] at hlength hdate
  rw [read?, hlength]
  simp only [Option.bind_eq_bind, Option.bind_some, hdate, hrest]
  rfl

theorem read?_momentText {moment : Moment} (h : moment.IsValid) (between : CodePoint) :
    read? (moment.date.text ++ between :: Moment.clockText moment.clock) =
      some moment.toSecond := by
  have hrest : (moment.date.text ++ between :: Moment.clockText moment.clock).drop 10 =
      between :: Moment.clockText moment.clock := List.drop_left' (moment.date.length_text h.date)
  rw [read?, dateLength?_text h.date]
  simp only [Option.bind_eq_bind, Option.bind_some, date?_text h.date, hrest,
    time?_clockText h.clock, Clock.isValid_toSecond h.clock, if_true]
  rfl

end Iso

theorem format_normal (moment : Moment) :
    format moment "YYYY-MM-DDTHH:mm:ss" =
      moment.date.text ++ .char 'T' :: Moment.clockText moment.clock := by
  simp [format, Date.text, Moment.clockText]

theorem format_default (moment : Moment) : format moment "YYYY-MM-DD" = moment.date.text := by
  simp [format, Date.text]

theorem readUniversal_of_read? {text : Text} {moment : Moment} {width first last : Nat}
    (hfirst : Text.ofNatPadded width first <+: text) (hlast : Text.ofNatPadded 2 last <:+ text)
    (hread : Iso.read? text = some moment) (hlocal : moment.offset = none) :
    readUniversal text = .ok (some moment) := by
  have hstrip : Text.strip text = text := by
    apply Text.strip_eq_self_of_ends
    · exact fun c hc => Text.IsIntegerChar.isBlank
        (.inl (Text.isDigit_of_head?_of_prefix hfirst hc))
    · exact fun c hc => Text.IsIntegerChar.isBlank
        (.inl (Text.isDigit_of_getLast?_of_suffix hlast hc))
  have hsome : text.isEmpty = false := by
    cases text with
    | nil => cases hread
    | cons c rest => rfl
  have huniversal : universal moment = .ok moment := by
    rw [universal, Moment.toUniversal?, hlocal]
  rw [readUniversal, hstrip]
  simp only [hsome, Bool.false_eq_true, if_false, readDate, hread]
  show (do return some (← universal moment)) = _
  rw [huniversal]
  rfl

theorem readUniversal_dateText {date : Date} (h : date.isValid = true) :
    readUniversal date.text = .ok (some { date }) := by
  have hyear : Text.ofNatPadded 4 date.year <+: date.text := by
    rw [Date.text, List.append_assoc]
    exact List.prefix_append _ _
  have hday : Text.ofNatPadded 2 date.day <:+ date.text :=
    (List.suffix_cons (.char '-') _).trans (List.suffix_append _ _)
  exact readUniversal_of_read? hyear hday (Iso.read?_dateText h) rfl

theorem readUniversal_momentText {moment : Moment} (h : moment.IsValid) :
    readUniversal (moment.date.text ++ .char 'T' :: Moment.clockText moment.clock) =
      .ok (some moment.toSecond) := by
  have hyear : Text.ofNatPadded 4 moment.date.year <+:
      moment.date.text ++ .char 'T' :: Moment.clockText moment.clock := by
    rw [Date.text_append]
    exact List.prefix_append _ _
  have hclock : Text.ofNatPadded 2 moment.clock.second <:+ Moment.clockText moment.clock :=
    (List.suffix_cons (.char ':') _).trans (List.suffix_append _ _)
  have hsecond : Text.ofNatPadded 2 moment.clock.second <:+
      moment.date.text ++ .char 'T' :: Moment.clockText moment.clock :=
    (hclock.trans (List.suffix_cons (.char 'T') _)).trans (List.suffix_append _ _)
  exact readUniversal_of_read? hyear hsecond (Iso.read?_momentText h 'T') rfl

end Calendar

end Clippings
