import Clippings.Proofs.Expression.Pieces

namespace Clippings

namespace Scan

/-- No separator is a blank, which trimming would take away, or a backslash, which would take the
meaning of a quote away. -/
structure Cuts.IsNeutral (cuts : Cuts) : Prop where
  blank : ∀ c, Text.isBlank c = true → cuts.isSeparator c = false
  backslash : cuts.isSeparator '\\' = false

theorem ne_of_isBlank {c d : CodePoint} (hc : Text.isBlank c = true) (hd : Text.isBlank d = false) :
    c ≠ d :=
  ne_of_apply_ne Text.isBlank (by simp [hc, hd])

theorem Cuts.isNeutral_of_char {separator : CodePoint} (hblank : Text.isBlank separator = false)
    (hbackslash : separator ≠ '\\') (quotedColon : Bool) :
    Cuts.IsNeutral { isSeparator := (· = separator), quotedColon } where
  blank _ hc := decide_eq_false (ne_of_isBlank hc hblank)
  backslash := decide_eq_false hbackslash.symm

theorem eq_of_cutsAt {cuts : Cuts} (hcuts : cuts.IsNeutral) {state : ScanState}
    {before : Option CodePoint} {current : Text} {c : CodePoint}
    (h : cuts.cutsAt state before current c = true) : state = {} ∧ c ≠ '\\' := by
  obtain ⟨quote, depth⟩ := state
  simp only [Cuts.cutsAt, ScanState.isTopLevel, Bool.and_eq_true, Bool.or_eq_true,
    Option.isNone_iff_eq_none, decide_eq_true_eq] at h
  obtain ⟨⟨-, hquote, hdepth⟩, hplace⟩ := h
  refine ⟨by rw [hquote, hdepth], ?_⟩
  rintro rfl
  rcases hplace with hseparator | ⟨⟨hcolon, -⟩, -⟩
  · simp [hcuts.backslash] at hseparator
  · simp at hcolon

/-- Nothing is cut in a text that is read from its start, and `final` is open at its end. -/
def ReadsWhole (cuts : Cuts) (text : Text) (final : ScanState) : Prop :=
  piecesFrom cuts {} none [] text = ([text], final)

namespace ReadsWhole

variable {cuts : Cuts}

theorem nil (cuts : Cuts) : ReadsWhole cuts [] {} := rfl

theorem concat {text : Text} {state : ScanState} {c : CodePoint} (h : ReadsWhole cuts text state)
    (hcut : cuts.cutsAt state text.getLast? text.reverse c = false) :
    ReadsWhole cuts (text ++ [c]) (state.step text.getLast? c) := by
  rw [ReadsWhole, piecesFrom_append_of_singleton h, lastChar_none]
  simp [piecesFrom, hcut]

theorem exists_of_append {s t : Text} {final : ScanState} (h : ReadsWhole cuts (s ++ t) final) :
    ∃ middle, ReadsWhole cuts s middle := by
  obtain ⟨done, last, hpieces⟩ := exists_piecesFrom_eq_concat cuts {} none [] s
  rw [ReadsWhole, piecesFrom_append hpieces] at h
  -- A cut in the first part would be one in the whole text.
  cases done with
  | nil =>
      have hlast : last = s := eq_of_piecesFrom_singleton (congrArg Prod.fst hpieces)
      exact ⟨_, hlast ▸ hpieces⟩
  | cons first others =>
      have hrest := (List.cons.inj (congrArg Prod.fst h)).2
      exact absurd (List.append_eq_nil_iff.mp hrest).2 (piecesFrom_ne_nil _ _ _ _ _)

end ReadsWhole

/-- The pieces of a text as they stand are read whole by themselves. All but the last of them leave
nothing open, and the last one leaves open what the text does. -/
theorem exists_pieces {cuts : Cuts} (hcuts : cuts.IsNeutral) {state : ScanState} {current : Text}
    (h : ReadsWhole cuts current.reverse state) (text : Text) :
    ∃ done last final,
      piecesFrom cuts state current.head? current text = (done ++ [last], final) ∧
        (∀ piece ∈ done, ReadsWhole cuts piece {}) ∧ ReadsWhole cuts last final := by
  -- The part of a piece that was read is always read whole, and only its last character matters to
  -- what follows: before a piece stands a separator, which changes nothing.
  induction text generalizing state current with
  | nil => exact ⟨[], current.reverse, state, rfl, by simp, h⟩
  | cons c text ih =>
      by_cases hcut : cuts.cutsAt state current.head? current c
      · -- The next piece starts with nothing open, and behind no backslash.
        obtain ⟨rfl, hbackslash⟩ := eq_of_cutsAt hcuts hcut
        have hstart : ReadsWhole cuts ([] : Text).reverse {} := ReadsWhole.nil cuts
        obtain ⟨done, last, final, hpieces, hdone, hlast⟩ := ih hstart
        rw [List.head?_nil] at hpieces
        refine ⟨current.reverse :: done, last, final, ?_, ?_, hlast⟩
        · rw [piecesFrom, if_pos hcut, piecesFrom_of_before (by simpa using hbackslash), hpieces]
          rfl
        · rintro piece (_ | ⟨_, hpiece⟩)
          · exact h
          · exact hdone piece hpiece
      · have hnext : ReadsWhole cuts (c :: current).reverse (state.step current.head? c) := by
          have hconcat := h.concat (c := c)
          simp only [List.getLast?_reverse, List.reverse_reverse] at hconcat
          rw [List.reverse_cons]
          exact hconcat (by simpa using hcut)
        obtain ⟨done, last, final, hpieces, hpiece⟩ := ih hnext
        exact ⟨done, last, final, by rw [piecesFrom, if_neg hcut]; exact hpieces, hpiece⟩

theorem isQuoted_append_of_isBlank {lead : Text} (h : ∀ c ∈ lead, Text.isBlank c = true)
    (text : Text) : isQuoted (lead ++ text) = isQuoted text := by
  rw [isQuoted, isQuoted, Text.strip_append_of_isBlank h]

theorem piecesFrom_behind_blanks {lead : Text} (hlead : ∀ c ∈ lead, Text.isBlank c = true)
    (cuts : Cuts) (state : ScanState) (before : Option CodePoint) (current text : Text) :
    piecesFrom cuts state before (current ++ lead.reverse) text =
      ((piecesFrom cuts state before current text).1.modifyHead (lead ++ ·),
        (piecesFrom cuts state before current text).2) := by
  induction text generalizing state before current with
  | nil => simp [piecesFrom]
  | cons c text ih =>
      have hsame : cuts.cutsAt state before (current ++ lead.reverse) c =
          cuts.cutsAt state before current c := by
        simp [Cuts.cutsAt, isQuoted_append_of_isBlank hlead]
      rw [piecesFrom, piecesFrom, hsame]
      split
      · simp
      · exact ih _ _ (c :: current)

theorem crosses_of_isBlank {cuts : Cuts} (hcuts : cuts.IsNeutral) {text : Text}
    (h : ∀ c ∈ text, Text.isBlank c = true) (state : ScanState) (before : Option CodePoint) :
    Crosses cuts state before text state := by
  apply crosses_of_plain
  intro c hc
  have hne (d : CodePoint) (hd : Text.isBlank d = false) : c ≠ d := ne_of_isBlank (h c hc) hd
  refine ⟨?_, hne _ (by decide), hne _ (by decide), hne _ (by decide), hcuts.blank c (h c hc)⟩
  simp [isQuote, hne '"' (by decide), hne '\'' (by decide)]

namespace ReadsWhole

variable {cuts : Cuts}

theorem of_append_blanks (hcuts : cuts.IsNeutral) {text tail : Text} {final : ScanState}
    (htail : ∀ c ∈ tail, Text.isBlank c = true) (h : ReadsWhole cuts (text ++ tail) final) :
    ReadsWhole cuts text final := by
  obtain ⟨middle, hmiddle⟩ := h.exists_of_append
  rw [ReadsWhole, piecesFrom_append_of_singleton hmiddle,
    crosses_of_isBlank hcuts htail middle _ _] at h
  obtain rfl : middle = final := congrArg Prod.snd h
  exact hmiddle

theorem of_blanks_append (hcuts : cuts.IsNeutral) {lead text : Text} {final : ScanState}
    (hlead : ∀ c ∈ lead, Text.isBlank c = true) (h : ReadsWhole cuts (lead ++ text) final) :
    ReadsWhole cuts text final := by
  have hbefore : lastChar none lead ≠ some (.char '\\') := by
    intro hlast
    rw [lastChar_none] at hlast
    exact ne_of_isBlank (hlead _ (List.mem_of_getLast? hlast)) (by decide) rfl
  have hbehind := piecesFrom_behind_blanks hlead cuts {} none [] text
  rw [ReadsWhole, (crosses_of_isBlank hcuts hlead {} none).piecesFrom_append,
    piecesFrom_of_before hbefore, List.append_nil, ← List.nil_append lead.reverse, hbehind,
    Prod.mk.injEq] at h
  obtain ⟨hpieces, hfinal⟩ := h
  cases hfirst : (piecesFrom cuts {} none [] text).1 with
  | nil => exact absurd hfirst (piecesFrom_ne_nil cuts {} none [] text)
  | cons first others =>
      rw [hfirst] at hpieces
      obtain ⟨hhead, rfl⟩ : lead ++ first = lead ++ text ∧ others = [] := by simpa using hpieces
      obtain rfl := List.append_cancel_left hhead
      exact Prod.ext hfirst hfinal

theorem strip (hcuts : cuts.IsNeutral) {text : Text} {final : ScanState}
    (h : ReadsWhole cuts text final) : ReadsWhole cuts (Text.strip text) final := by
  obtain ⟨lead, tail, htext, hlead, htail⟩ := Text.exists_eq_strip text
  rw [htext] at h
  exact (h.of_blanks_append hcuts hlead).of_append_blanks hcuts htail

theorem split_strip (hcuts : cuts.IsNeutral) {text : Text} {final : ScanState}
    (h : ReadsWhole cuts text final) (hne : Text.strip text ≠ []) :
    split cuts (Text.strip text) = ([Text.strip text], final) := by
  rw [split, h.strip hcuts]
  change (tidy [Text.strip text], final) = _
  rw [tidy_eq_self]
  · simpa using Text.strip_strip text
  · simpa using hne

end ReadsWhole

/-- Without a piece nothing is left open. Otherwise each piece is the only piece of itself; the last
one leaves open what the text leaves open, and all others leave nothing open. -/
theorem split_eq_nil_or_concat {cuts : Cuts} (hcuts : cuts.IsNeutral) (text : Text) :
    split cuts text = ([], {}) ∨
      ∃ pieces last final, split cuts text = (pieces ++ [last], final) ∧
        (∀ piece ∈ pieces, split cuts piece = ([piece], {})) ∧
        split cuts last = ([last], final) := by
  have hstart : ReadsWhole cuts ([] : Text).reverse {} := ReadsWhole.nil cuts
  obtain ⟨done, last, final, hpieces, hdone, hlast⟩ := exists_pieces hcuts hstart text
  rw [List.head?_nil] at hpieces
  have hsplit : split cuts text = (tidy done ++ tidy [last], final) := by
    rw [← tidy_append, split, hpieces]
  have hwhole : ∀ piece ∈ tidy done, split cuts piece = ([piece], {}) := by
    intro piece hpiece
    have hne := ne_nil_of_mem_tidy hpiece
    obtain ⟨whole, hmem, rfl⟩ := List.mem_map.mp (List.mem_of_mem_filter hpiece)
    exact (hdone whole hmem).split_strip hcuts hne
  by_cases hempty : Text.strip last = []
  · -- Blanks at the end of a text are no piece, and they stand behind a cut or behind nothing.
    have hnothing : ReadsWhole cuts [] final := hempty ▸ hlast.strip hcuts
    obtain rfl : {} = final := congrArg Prod.snd hnothing
    have htidy : tidy [last] = [] := by simp [tidy, hempty]
    rw [htidy, List.append_nil] at hsplit
    rw [hsplit]
    rcases (tidy done).eq_nil_or_concat with hnil | ⟨front, piece, hconcat⟩
    · exact .inl (by rw [hnil])
    · rw [List.concat_eq_append] at hconcat
      rw [hconcat] at hwhole ⊢
      refine .inr ⟨front, piece, {}, rfl, fun other hother => ?_, hwhole piece (by simp)⟩
      exact hwhole other (List.mem_append_left _ hother)
  · have htidy : tidy [last] = [Text.strip last] := by simp [tidy, hempty]
    rw [htidy] at hsplit
    exact .inr ⟨tidy done, Text.strip last, final, hsplit, hwhole, hlast.split_strip hcuts hempty⟩

theorem split_of_mem {cuts : Cuts} (hcuts : cuts.IsNeutral) {text piece : Text}
    (h : piece ∈ (split cuts text).1) : (split cuts piece).1 = [piece] := by
  rcases split_eq_nil_or_concat hcuts text with hnil | ⟨pieces, last, final, hsplit, hwhole, hlast⟩
  · simp [hnil] at h
  · rw [hsplit, List.mem_append, List.mem_singleton] at h
    rcases h with hmem | rfl
    · rw [hwhole piece hmem]
    · rw [hlast]

/-- The pieces of a text, joined with the separator, are cut into the same pieces again, and the
same quote and parentheses are left open, whatever the text leaves open. -/
theorem split_join_split {separator : CodePoint} (hseparator : separator ∈ [.char '|', .char ','])
    (quotedColon : Bool) (text : Text) :
    let cuts : Cuts := { isSeparator := (· = separator), quotedColon }
    split cuts (Text.join [separator] (split cuts text).1) = split cuts text := by
  intro cuts
  have hcases : separator = '|' ∨ separator = ',' := by simpa using hseparator
  have hblank : Text.isBlank separator = false := by
    rcases hcases with rfl | rfl <;> decide
  have hplain : separator ∉ [.char '(', .char ')', .char '"', .char '\'', .char '\\'] := by
    rcases hcases with rfl | rfl <;> decide
  have hbackslash : separator ≠ '\\' := by
    rintro rfl
    simp at hplain
  have hcuts : cuts.IsNeutral := Cuts.isNeutral_of_char hblank hbackslash quotedColon
  have hself : cuts.isSeparator separator = true := decide_eq_true rfl
  rcases split_eq_nil_or_concat hcuts text with hnil | ⟨pieces, last, final, hsplit, hwhole, hlast⟩
  · rw [hnil]
    rfl
  · rw [hsplit]
    exact split_join_concat hself hplain hwhole hlast

/-- A colon behind a quoted piece becomes a comma, an empty piece goes, a backslash comes to stand
before a comma, and a quote inside of parentheses stays open. -/
theorem split_join_split_open :
    let cuts : Cuts := { isSeparator := (· = ','), quotedColon := true }
    let text : Text := " 'a' :\"b\\\"c\", ,d\\ ,(f,\"g "
    let pieces : List Text := ["'a'", "\"b\\\"c\"", "d\\", "(f,\"g"]
    .char ',' ∈ [CodePoint.char '|', CodePoint.char ','] ∧
      split cuts text = (pieces, ⟨some (.char '"'), 1⟩) ∧
      Text.join [.char ','] pieces = "'a',\"b\\\"c\",d\\,(f,\"g" ∧
      split cuts "'a',\"b\\\"c\",d\\,(f,\"g" = (pieces, ⟨some (.char '"'), 1⟩) := by
  intro cuts text pieces
  have hcomma : CodePoint.char ',' ∈ [CodePoint.char '|', CodePoint.char ','] := by simp
  have hsplit : split cuts text = (pieces, ⟨some (.char '"'), 1⟩) := by decide
  have hjoin : Text.join [.char ','] pieces = "'a',\"b\\\"c\",d\\,(f,\"g" := by decide
  have hagain : split cuts (Text.join [.char ','] (split cuts text).1) = split cuts text :=
    split_join_split hcomma true text
  rw [hsplit, hjoin] at hagain
  exact ⟨hcomma, hsplit, hjoin, hagain⟩

end Scan

theorem Expression.parse_variableName (body : Text) :
    parse (parse body).variableName = { variableName := (parse body).variableName } := by
  rcases variableName_parse_cases body with hempty | hmem
  · rw [hempty]
    rfl
  · have hneutral : Scan.bars.IsNeutral :=
      Scan.Cuts.isNeutral_of_char (by decide) (by decide) false
    rw [parse.eq_def (parse body).variableName, Scan.split_of_mem hneutral hmem]
    rfl

end Clippings
