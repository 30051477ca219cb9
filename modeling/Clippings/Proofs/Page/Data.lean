import Clippings.Note.Context
import Clippings.Proofs.Json.Data
import Clippings.Proofs.Page.Parts

namespace Clippings

namespace Text

theorem length_splitSign_le (text : Text) : (splitSign text).2.length ≤ text.length := by
  rw [splitSign.eq_def]
  split
  · simp
  · simp
  · rfl

theorem length_cut_le (sep : CodePoint) (text : Text) : (cut sep text).1.length ≤ text.length := by
  induction text with
  | nil => simp [cut]
  | cons c rest ih =>
      rw [cut]
      split
      · simp
      · simpa using ih

end Text

theorem Value.IsPageData.fields {value : Value} (h : value.IsPageData) :
    ∀ fields, value = .map fields → ∀ entry ∈ fields, entry.2.IsPageData := by
  rintro fields rfl
  exact isPageData_map_values h

namespace Check

theorem length_dropZeroFraction_le (text : Text) :
    (dropZeroFraction text).length ≤ text.length := by
  have hcut := Text.length_cut_le '.' text
  rw [dropZeroFraction]
  split
  · rename_i whole fraction heq
    rw [heq] at hcut
    split
    · exact hcut
    · rfl
  · rename_i whole heq
    rw [heq] at hcut
    exact hcut

theorem length_dropSingleUnderscores_le {text digits : Text}
    (h : dropSingleUnderscores text = some digits) : digits.length ≤ text.length := by
  rw [dropSingleUnderscores] at h
  split at h
  · cases h
  · obtain rfl := Option.some.inj h
    exact List.length_filter_le _ _

theorem length_dropZerosBehind_le {before : CodePoint} {text digits : Text}
    (h : dropZerosBehind before text = some digits) : digits.length ≤ text.length + 1 := by
  induction text generalizing before with
  | nil =>
      obtain rfl := Option.some.inj h
      simp
  | cons c rest ih =>
      rw [dropZerosBehind] at h
      split at h
      · exact (ih h).trans (by simp)
      · split at h
        · obtain rfl := Option.some.inj h
          simp
        · split at h
          · obtain rfl := Option.some.inj h
            simp
          · cases h

theorem length_dropLeadingZeros_le {text digits : Text} (h : dropLeadingZeros text = some digits) :
    digits.length ≤ text.length := by
  cases text with
  | nil => cases h
  | cons c rest =>
      rw [dropLeadingZeros] at h
      split at h
      · exact length_dropZerosBehind_le h
      · split at h
        · obtain rfl := Option.some.inj h
          rfl
        · cases h

theorem isDigit_of_isPlainDigit {c : CodePoint} (h : Text.isPlainDigit c = true) :
    c.isDigit = true := by
  rw [Text.isPlainDigit, Bool.and_eq_true, decide_eq_true_eq, decide_eq_true_eq] at h
  exact CodePoint.isDigit_iff.mpr h

abbrev IsShort (n : Int) : Prop := (Text.ofNat n.natAbs).length ≤ integerDigitLimit

theorem gives_integerOfText (text : Text) : (integerOfText text).Gives IsShort := by
  rw [integerOfText]
  dsimp only
  split
  · exact .invalid _
  · rename_i hlength
    split
    · rename_i digits hdigits
      split
      · exact .invalid _
      · rename_i hplain
        obtain ⟨magnitude, hmagnitude, hdrop⟩ := Option.bind_eq_some_iff.mp hdigits
        have hshort : digits.length ≤ integerDigitLimit := by
          calc
            digits.length ≤ (dropZeroFraction magnitude).length :=
              length_dropSingleUnderscores_le hdrop
            _ ≤ magnitude.length := length_dropZeroFraction_le magnitude
            _ ≤ (Text.splitSign (Text.trimBy isPadding text)).2.length :=
              length_dropLeadingZeros_le hmagnitude
            _ ≤ (Text.trimBy isPadding text).length := Text.length_splitSign_le _
            _ ≤ integerTextLimit := Nat.not_lt.mp hlength
        have hall : ∀ c ∈ digits, c.isDigit = true := by
          intro c hc
          simp only [Bool.or_eq_true, Bool.not_eq_true', not_or, Bool.not_eq_false] at hplain
          exact isDigit_of_isPlainDigit (List.all_eq_true.mp hplain.2 c hc)
        refine .valid ?_
        rw [IsShort, Json.natAbs_signed]
        refine Text.length_ofNat_le (by decide) ((Text.natOfText_lt hall).trans_le ?_)
        exact Nat.pow_le_pow_right (by decide) hshort
    · exact .invalid _

theorem gives_integer {value : Value} (h : value.IsPageData) : (integer value).Gives IsShort := by
  cases h with
  | null => exact .invalid _
  | bool b =>
    refine .valid ?_
    cases b <;> decide
  | int digits => exact .valid digits
  | @float x representable =>
    rw [integer, integerOfFloat.eq_def]
    split
    · exact .invalid _
    · exact .invalid _
    · split
      · exact .invalid _
      · rename_i n hn
        split
        · refine .valid ?_
          rw [Binary64.toInt?] at hn
          split at hn
          · exact length_ofNat_le_of_lt_two_pow (Binary64.natAbs_truncate_lt representable hn)
          · cases hn
        · exact .invalid _
  | text s => exact .andThen (gives_any _) fun s _ => gives_integerOfText s
  | list members => exact .invalid _
  | map keys values => exact .invalid _

theorem gives_number {value : Value} (h : value.IsPageData) :
    (number value).Gives Binary64.IsRepresentable := by
  cases h with
  | null => exact .invalid _
  | bool b => exact .valid (Binary64.isRepresentable_ofRatio _ _ Nat.one_pos)
  | @int n digits =>
      simp only [number]
      split
      · exact .invalid _
      · exact .valid (Binary64.isRepresentable_ofRatio _ _ Nat.one_pos)
  | float representable => exact .valid representable
  | text s =>
      refine .andThen (gives_any _) fun s _ => ?_
      rw [numberOfText]
      split
      · exact .invalid _
      · split
        · rename_i x hx
          exact .valid (Binary64.isRepresentable_of_read? hx)
        · exact .invalid _
  | list members => exact .invalid _
  | map keys values => exact .invalid _

theorem gives_pageData {value : Value} (h : value.IsPageData) :
    (mapping value).Gives fun new => (Value.map new).IsPageData := by
  intro new hnew
  have hentries := gives_mapping h.fields new hnew
  exact .map (fun entry hentry => (hentries entry hentry).1)
    fun entry hentry => (hentries entry hentry).2

end Check

theorem isPageData_textOrNull (text : Option Text) : (textOrNull text).IsPageData := by
  cases text with
  | none => exact .null
  | some s => exact .text s

theorem Highlight.gives_check {value : Value} (h : value.IsPageData) :
    (check value).Gives fun highlight => (Value.map highlight.entries).IsPageData := by
  refine .andThen (Check.gives_record _ h.fields) fun fields hfields => ?_
  refine .seq (Check.gives_any _) (.seq (Check.gives_any _) (.seq
    (p := fun time => ∀ x ∈ time, Binary64.IsRepresentable x) ?_ ?_))
  · refine Field.gives_optional _ hfields (by simp) fun value hvalue => .map fun x hx => ?_
    simpa using Check.gives_number hvalue x hx
  · refine .seq (Check.gives_any _) (.map ?_)
    intro text _ html _ time htime color _ note _
    refine .map (by simp [entries]) ?_
    simp only [entries, List.forall_mem_cons]
    refine ⟨.text _, .text _, ?_, isPageData_textOrNull _, isPageData_textOrNull _, by simp⟩
    cases time with
    | none => exact .int (by decide)
    | some x => exact .float (htime x rfl)

theorem PageContent.gives_check {value : Value} (h : value.IsPageData) :
    (check value).Gives fun page => (Value.map (page.entries true)).IsPageData := by
  have hhighlights : ∀ value : Value, value.IsPageData →
      (Check.orNull (Check.list Highlight.check) value).Gives fun found =>
        ∀ list ∈ found, ∀ h ∈ list, (Value.map (Highlight.entries h)).IsPageData :=
    fun _ hvalue => Check.gives_orNull (Check.gives_list fun _ hvalues item hitem =>
      Highlight.gives_check (Value.isPageData_of_mem_items? hvalue hvalues item hitem))
  have hparts := gives_hasParts h.fields (fun _ => Check.gives_integer) (by decide) hhighlights
    (by simp) (fun _ => Check.gives_pageData) (.map (by simp) (by simp))
  intro page hpage
  obtain ⟨hwords, hmetadata, hhighlights, hselectors, hselectorsHtml, hschema⟩ := hparts page hpage
  refine .map (by simp [entries, Field.label]) ?_
  simp only [entries, List.forall_mem_cons]
  refine ⟨.text _, .text _, .text _, .text _, .text _, .text _, .text _, .text _, .text _, .text _,
    .text _, .text _, .int hwords, hmetadata, ?_, isPageData_textOrNull _, hselectors,
    hselectorsHtml, hschema, by simp⟩
  cases hmarked : page.highlights with
  | none => exact .null
  | some list =>
      refine .list fun item hitem => ?_
      obtain ⟨highlight, hhighlight, rfl⟩ := List.mem_map.mp hitem
      exact hhighlights list hmarked highlight hhighlight

theorem Entries.isPageData_insertAll {entries new : Entries} (h : (Value.map entries).IsPageData)
    (hnew : (Value.map new).IsPageData) : (Value.map (entries.insertAll new)).IsPageData := by
  induction new generalizing entries with
  | nil => exact h
  | cons entry rest ih =>
      obtain ⟨key, value⟩ := entry
      cases hnew with
      | map keys values =>
          obtain ⟨⟨name, rfl⟩, hkeys⟩ := List.forall_mem_cons.mp keys
          obtain ⟨hvalue, hvalues⟩ := List.forall_mem_cons.mp values
          exact ih (isPageData_insert name h hvalue) (.map hkeys hvalues)

theorem Entries.isPageData_withDate {entries : Entries} (h : (Value.map entries).IsPageData)
    (now : Calendar.Moment) : (Value.map (entries.withDate now)).IsPageData := by
  rw [withDate]
  split
  · exact h
  · exact isPageData_insert _ h (.text _)

theorem exists_contextFor (now : Calendar.Moment) {content extra : Entries}
    (hcontent : (Value.map content).IsPageData) (hextra : (Value.map extra).IsPageData) :
    ∃ context, contextFor now (.map content) (.map extra) = .ok context ∧
      (Value.map context).IsPageData := by
  have hnone : (Value.map []).IsPageData := .map (by simp) (by simp)
  have hpage := Entries.isPageData_withDate (Entries.isPageData_insertAll hnone hcontent) now
  by_cases htruthy : (Value.map extra).isTruthy = true
  · refine ⟨_, ?_, Entries.isPageData_insertAll hpage hextra⟩
    simp only [contextFor, Entries.insertFrom, htruthy]
    rfl
  · refine ⟨_, ?_, hpage⟩
    simp only [contextFor, Entries.insertFrom, htruthy]
    rfl

end Clippings
