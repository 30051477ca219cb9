import Clippings.Expression.Basic
import Clippings.Proofs.Text.Cutting
import Clippings.Proofs.Text.Trim
/-!
How the scanner goes over a text that is put together from parts. The last piece of a part is
continued by the next part (`piecesFrom_append`), so a part is described by the pieces that it ends
and by what it leaves open; many parts end no piece at all (`Crosses`).
-/

namespace Clippings.Scan

def lastChar (before : Option CodePoint) (text : Text) : Option CodePoint := text.getLast?.or before

@[simp] theorem lastChar_nil (before : Option CodePoint) : lastChar before [] = before := rfl

@[simp] theorem lastChar_cons (before : Option CodePoint) (c : CodePoint) (text : Text) :
    lastChar before (c :: text) = lastChar (some c) text := by
  cases text with
  | nil => rfl
  | cons d rest =>
      simp only [lastChar, List.getLast?_cons_cons]
      rw [List.getLast?_eq_some_getLast (List.cons_ne_nil d rest)]
      rfl

theorem lastChar_none (text : Text) : lastChar none text = text.getLast? := Option.or_none

theorem lastChar_of_ne_nil {text : Text} (before : Option CodePoint) (hne : text ≠ []) :
    lastChar before text = text.getLast? := by
  rw [lastChar, List.getLast?_eq_some_getLast hne]
  rfl

theorem piecesFrom_ne_nil (cuts : Cuts) (state : ScanState) (before : Option CodePoint)
    (current text : Text) : (piecesFrom cuts state before current text).1 ≠ [] := by
  fun_induction piecesFrom cuts state before current text with
  | case1 => simp
  | case2 => simp
  | case3 _ _ _ _ _ _ ih => exact ih

theorem exists_piecesFrom_eq_concat (cuts : Cuts) (state : ScanState) (before : Option CodePoint)
    (current text : Text) :
    ∃ done last, piecesFrom cuts state before current text =
      (done ++ [last], (piecesFrom cuts state before current text).2) := by
  rcases (piecesFrom cuts state before current text).1.eq_nil_or_concat with
    hnil | ⟨done, last, hconcat⟩
  · exact absurd hnil (piecesFrom_ne_nil cuts state before current text)
  · exact ⟨done, last, Prod.ext (by simpa using hconcat) rfl⟩

theorem piecesFrom_append {cuts : Cuts} {state : ScanState} {before : Option CodePoint}
    {current s : Text} {done : List Text} {last : Text} {final : ScanState}
    (h : piecesFrom cuts state before current s = (done ++ [last], final)) (t : Text) :
    piecesFrom cuts state before current (s ++ t) =
      (done ++ (piecesFrom cuts final (lastChar before s) last.reverse t).1,
        (piecesFrom cuts final (lastChar before s) last.reverse t).2) := by
  induction s generalizing state before current done with
  | nil =>
      simp only [piecesFrom, Prod.mk.injEq] at h
      obtain ⟨hpieces, rfl⟩ := h
      have hconcat : [] ++ [current.reverse] = done ++ [last] := hpieces
      obtain ⟨rfl, hlast⟩ := List.append_inj' hconcat rfl
      obtain rfl : current.reverse = last := by simpa using hlast
      simp
  | cons c rest ih =>
      rw [List.cons_append, lastChar_cons]
      by_cases hcut : cuts.cutsAt state before current c
      · simp only [piecesFrom, hcut, if_true, Prod.mk.injEq] at h ⊢
        obtain ⟨hpieces, hfinal⟩ := h
        cases done with
        | nil =>
            have hempty : (piecesFrom cuts state (some c) [] rest).1 = [] := by
              simpa using (List.cons.inj hpieces).2
            exact absurd hempty (piecesFrom_ne_nil _ _ _ _ _)
        | cons first others =>
            obtain ⟨hfirst, hothers⟩ := List.cons.inj hpieces
            have hrest : piecesFrom cuts state (some c) [] rest = (others ++ [last], final) :=
              Prod.ext hothers hfinal
            rw [ih hrest, hfirst]
            simp
      · simp only [piecesFrom, hcut] at h ⊢
        exact ih h

theorem piecesFrom_append_of_singleton {cuts : Cuts} {state : ScanState} {before : Option CodePoint}
    {current s last : Text} {final : ScanState}
    (h : piecesFrom cuts state before current s = ([last], final)) (t : Text) :
    piecesFrom cuts state before current (s ++ t) =
      piecesFrom cuts final (lastChar before s) last.reverse t := by
  have hconcat : piecesFrom cuts state before current s = ([] ++ [last], final) := h
  rw [piecesFrom_append hconcat t]
  rfl

theorem step_of_cutsAt {cuts : Cuts} {state : ScanState} {before : Option CodePoint}
    {current : Text} {c : CodePoint} (h : cuts.cutsAt state before current c = true) :
    state.step before c = state := by
  simp only [Cuts.cutsAt, Bool.and_eq_true, Bool.not_eq_true', decide_eq_true_eq] at h
  obtain ⟨⟨⟨⟨hquote, hopening⟩, hclosing⟩, -⟩, -⟩ := h
  rw [ScanState.step, if_neg (Bool.eq_false_iff.mp hquote)]
  simp [hopening, hclosing]

theorem split_concat_snd (cuts : Cuts) (text : Text) (c : CodePoint) :
    (split cuts (text ++ [c])).2 = (split cuts text).2.step text.getLast? c := by
  obtain ⟨done, last, hpieces⟩ := exists_piecesFrom_eq_concat cuts {} none [] text
  change (piecesFrom cuts {} none [] (text ++ [c])).2 =
    (piecesFrom cuts {} none [] text).2.step text.getLast? c
  rw [piecesFrom_append hpieces, lastChar_none]
  by_cases hcut : cuts.cutsAt (piecesFrom cuts {} none [] text).2 text.getLast? last.reverse c
  · rw [step_of_cutsAt hcut]
    simp [piecesFrom, hcut]
  · simp [piecesFrom, hcut]

theorem eq_of_piecesFrom_singleton {cuts : Cuts} {state : ScanState} {before : Option CodePoint}
    {current text piece : Text} (h : (piecesFrom cuts state before current text).1 = [piece]) :
    piece = current.reverse ++ text := by
  induction text generalizing state before current with
  | nil =>
      obtain rfl : current.reverse = piece := by simpa [piecesFrom] using h
      simp
  | cons c rest ih =>
      by_cases hcut : cuts.cutsAt state before current c
      · simp only [piecesFrom, hcut, if_true] at h
        exact absurd (List.cons.inj h).2 (piecesFrom_ne_nil _ _ _ _ _)
      · simp only [piecesFrom, hcut] at h
        simpa using ih h

theorem isInfix_of_mem_piecesFrom {cuts : Cuts} {state : ScanState} {before : Option CodePoint}
    {current text piece : Text} (h : piece ∈ (piecesFrom cuts state before current text).1) :
    piece <:+: current.reverse ++ text := by
  fun_induction piecesFrom cuts state before current text with
  | case1 state before current =>
      obtain rfl : piece = current.reverse := by simpa using h
      exact (List.prefix_append _ _).isInfix
  | case2 state before current c rest hcut pieces final hpieces ih =>
      rcases List.mem_cons.mp h with rfl | hmem
      · exact (List.prefix_append _ _).isInfix
      · rw [hpieces] at ih
        have hrest : piece <:+: rest := ih hmem
        exact hrest.trans ((List.suffix_cons c rest).trans (List.suffix_append _ _)).isInfix
  | case3 state before current c rest hcut ih => simpa using ih h

theorem isInfix_of_mem_split {cuts : Cuts} {text piece : Text} (h : piece ∈ (split cuts text).1) :
    piece <:+: text := by
  obtain ⟨whole, hwhole, rfl⟩ := List.mem_map.mp (List.mem_of_mem_filter h)
  exact (Text.strip_isInfix whole).trans (isInfix_of_mem_piecesFrom hwhole)

theorem length_piecesFrom (cuts : Cuts) (state : ScanState) (before : Option CodePoint)
    (current text : Text) :
    (piecesFrom cuts state before current text).1.flatten.length +
        (piecesFrom cuts state before current text).1.length =
      current.length + text.length + 1 := by
  fun_induction piecesFrom cuts state before current text with
  | case1 => simp
  | case2 state before current c rest hcut pieces final hpieces ih =>
      simp only [hpieces, List.length_nil, Nat.zero_add] at ih
      simp only [List.flatten_cons, List.length_append, List.length_cons, List.length_reverse]
      omega
  | case3 state before current c rest hcut ih =>
      simp only [List.length_cons] at ih ⊢
      omega

theorem length_tidy_le (pieces : List Text) :
    (tidy pieces).flatten.length ≤ pieces.flatten.length := by
  induction pieces with
  | nil => simp [tidy]
  | cons piece rest ih =>
      have hpiece := Text.length_strip_le piece
      by_cases hempty : (Text.strip piece).isEmpty
      · have htidy : tidy (piece :: rest) = tidy rest := by simp [tidy, hempty]
        rw [htidy, List.flatten_cons, List.length_append]
        omega
      · have htidy : tidy (piece :: rest) = Text.strip piece :: tidy rest := by
          simp [tidy, hempty]
        rw [htidy, List.flatten_cons, List.flatten_cons, List.length_append, List.length_append]
        omega

theorem tidy_append (s t : List Text) : tidy (s ++ t) = tidy s ++ tidy t := by
  simp [tidy]

theorem tidy_eq_self {pieces : List Text} (htrimmed : ∀ piece ∈ pieces, Text.strip piece = piece)
    (hne : ∀ piece ∈ pieces, piece ≠ []) : tidy pieces = pieces := by
  have hstrip : pieces.map Text.strip = pieces := by
    rw [List.map_congr_left htrimmed]
    exact List.map_id pieces
  rw [tidy, hstrip, List.filter_eq_self]
  intro piece hpiece
  simpa using hne piece hpiece

theorem ne_nil_of_mem_tidy {pieces : List Text} {piece : Text} (h : piece ∈ tidy pieces) :
    piece ≠ [] := by
  simpa using (List.mem_filter.mp h).2

theorem strip_of_mem_tidy {pieces : List Text} {piece : Text} (h : piece ∈ tidy pieces) :
    Text.strip piece = piece := by
  obtain ⟨whole, -, rfl⟩ := List.mem_map.mp (List.mem_of_mem_filter h)
  exact Text.strip_strip whole

theorem piecesFrom_of_split_eq_singleton {cuts : Cuts} {text : Text}
    (h : (split cuts text).1 = [text]) :
    piecesFrom cuts {} none [] text = ([text], (split cuts text).2) := by
  have hlength := length_piecesFrom cuts {} none [] text
  have hshort := length_tidy_le (piecesFrom cuts {} none [] text).1
  have htidy : tidy (piecesFrom cuts {} none [] text).1 = [text] := h
  rw [htidy, List.flatten_singleton] at hshort
  rw [List.length_nil] at hlength
  obtain ⟨piece, hpiece⟩ : ∃ piece, (piecesFrom cuts {} none [] text).1 = [piece] := by
    apply List.length_eq_one_iff.mp
    have hpos := List.length_pos_iff.mpr (piecesFrom_ne_nil cuts {} none [] text)
    omega
  obtain rfl : piece = text := by simpa using eq_of_piecesFrom_singleton hpiece
  exact Prod.ext hpiece rfl

/-- A text is crossed if the scanner cuts it nowhere, whatever part of a piece stands before it. -/
def Crosses (cuts : Cuts) (state : ScanState) (before : Option CodePoint) (text : Text)
    (final : ScanState) : Prop :=
  ∀ current, piecesFrom cuts state before current text = ([current.reverse ++ text], final)

theorem Crosses.nil (cuts : Cuts) (state : ScanState) (before : Option CodePoint) :
    Crosses cuts state before [] state := by
  intro current
  simp [piecesFrom]

theorem Crosses.cons {cuts : Cuts} {state final : ScanState} {before : Option CodePoint}
    {c : CodePoint} {rest : Text} (hcut : ∀ current, cuts.cutsAt state before current c = false)
    (hrest : Crosses cuts (state.step before c) (some c) rest final) :
    Crosses cuts state before (c :: rest) final := by
  intro current
  rw [piecesFrom, hcut current]
  simpa using hrest (c :: current)

theorem Crosses.append {cuts : Cuts} {state middle final : ScanState} {before : Option CodePoint}
    {s t : Text} (hs : Crosses cuts state before s middle)
    (ht : Crosses cuts middle (lastChar before s) t final) :
    Crosses cuts state before (s ++ t) final := by
  intro current
  rw [piecesFrom_append_of_singleton (hs current) t, ht]
  simp

theorem Crosses.piecesFrom_append {cuts : Cuts} {state middle : ScanState}
    {before : Option CodePoint} {s : Text} (hs : Crosses cuts state before s middle)
    (current t : Text) :
    piecesFrom cuts state before current (s ++ t) =
      piecesFrom cuts middle (lastChar before s) (s.reverse ++ current) t := by
  rw [piecesFrom_append_of_singleton (hs current) t]
  simp

theorem crosses_of_plain {cuts : Cuts} {text : Text}
    (hplain : ∀ c ∈ text, isQuote c = false ∧ c ≠ '(' ∧ c ≠ ')' ∧ c ≠ ':' ∧
      cuts.isSeparator c = false)
    (state : ScanState) (before : Option CodePoint) : Crosses cuts state before text state := by
  induction text generalizing before with
  | nil => exact Crosses.nil cuts state before
  | cons c rest ih =>
      obtain ⟨hquote, hopening, hclosing, hcolon, hseparator⟩ := hplain c (by simp)
      apply Crosses.cons
      · intro current
        simp [Cuts.cutsAt, hcolon, hseparator]
      · have hstep : state.step before c = state := by
          simp [ScanState.step, hquote, hopening, hclosing]
        rw [hstep]
        exact ih (fun d hd => hplain d (by simp [hd])) (some c)

theorem piecesFrom_of_before {before : Option CodePoint} (hbefore : before ≠ some (.char '\\'))
    (cuts : Cuts) (state : ScanState) (current text : Text) :
    piecesFrom cuts state before current text = piecesFrom cuts state none current text := by
  cases text with
  | nil => rfl
  | cons c rest => simp [piecesFrom, Cuts.cutsAt, ScanState.step, hbefore]

theorem cutsAt_separator {cuts : Cuts} {c : CodePoint} (hseparator : cuts.isSeparator c = true)
    (hplain : c ∉ [.char '(', .char ')', .char '"', .char '\'']) (before : Option CodePoint)
    (current : Text) : cuts.cutsAt {} before current c = true := by
  simp only [List.mem_cons, List.not_mem_nil, or_false, not_or] at hplain
  simp [Cuts.cutsAt, ScanState.isTopLevel, isQuote, hseparator, hplain]

theorem split_append_separator {cuts : Cuts} {text : Text} {c : CodePoint}
    (hbalanced : (split cuts text).2 = {}) (hseparator : cuts.isSeparator c = true)
    (hplain : c ∉ [.char '(', .char ')', .char '"', .char '\'', .char '\\']) (rest : Text) :
    split cuts (text ++ c :: rest) =
      ((split cuts text).1 ++ (split cuts rest).1, (split cuts rest).2) := by
  obtain ⟨done, last, hpieces⟩ := exists_piecesFrom_eq_concat cuts {} none [] text
  have hfinal : (piecesFrom cuts {} none [] text).2 = {} := hbalanced
  rw [hfinal] at hpieces
  have hcut : cuts.cutsAt {} (lastChar none text) last.reverse c = true := by
    apply cutsAt_separator hseparator
    simp only [List.mem_cons, not_or] at hplain ⊢
    tauto
  have hbefore : some c ≠ some (.char '\\') := by
    rintro ⟨⟩
    simp at hplain
  have hwhole : piecesFrom cuts {} none [] (text ++ c :: rest) =
      ((done ++ [last]) ++ (piecesFrom cuts {} none [] rest).1,
        (piecesFrom cuts {} none [] rest).2) := by
    rw [piecesFrom_append hpieces, piecesFrom, if_pos hcut, piecesFrom_of_before hbefore]
    simp
  rw [split, split, hwhole, hpieces]
  simp only [tidy_append]
  rfl

theorem split_join_concat {cuts : Cuts} {c : CodePoint} (hseparator : cuts.isSeparator c = true)
    (hplain : c ∉ [.char '(', .char ')', .char '"', .char '\'', .char '\\']) {pieces : List Text}
    (hwhole : ∀ piece ∈ pieces, split cuts piece = ([piece], {})) {last : Text} {final : ScanState}
    (hlast : split cuts last = ([last], final)) :
    split cuts (Text.join [c] (pieces ++ [last])) = (pieces ++ [last], final) := by
  induction pieces with
  | nil => exact hlast
  | cons first rest ih =>
      have hfirst := hwhole first List.mem_cons_self
      have hrest := ih fun piece hpiece => hwhole piece (List.mem_cons_of_mem _ hpiece)
      have hjoin : Text.join [c] ([first] ++ (rest ++ [last])) =
          first ++ [c] ++ Text.join [c] (rest ++ [last]) :=
        Text.join_append (List.cons_ne_nil first []) (by simp)
      change split cuts (Text.join [c] ([first] ++ (rest ++ [last]))) = _
      rw [hjoin, List.append_assoc, List.singleton_append,
        split_append_separator (by rw [hfirst]) hseparator hplain, hfirst, hrest]
      rfl

theorem split_join {cuts : Cuts} {c : CodePoint} (hseparator : cuts.isSeparator c = true)
    (hplain : c ∉ [.char '(', .char ')', .char '"', .char '\'', .char '\\']) {pieces : List Text}
    (hwhole : ∀ piece ∈ pieces, split cuts piece = ([piece], {})) :
    split cuts (Text.join [c] pieces) = (pieces, {}) := by
  rcases pieces.eq_nil_or_concat with rfl | ⟨front, last, rfl⟩
  · rfl
  · rw [List.concat_eq_append] at hwhole ⊢
    apply split_join_concat hseparator hplain
    · intro piece hpiece
      exact hwhole piece (List.mem_append_left _ hpiece)
    · exact hwhole last (by simp)

end Clippings.Scan

namespace Clippings

theorem ScanState.eq_of_isBalanced {state : ScanState} (h : state.isBalanced = true) :
    state = {} := by
  obtain ⟨quote, depth⟩ := state
  simp only [ScanState.isBalanced, Bool.and_eq_true, Option.isNone_iff_eq_none,
    decide_eq_true_eq] at h
  rw [h.1, h.2]

theorem Expression.filters_parse_of_variableName_eq_nil {body : Text}
    (h : (parse body).variableName = []) : (parse body).filters = [] := by
  rw [parse] at h ⊢
  split
  · rfl
  · next variableName segments hpieces =>
    rw [hpieces] at h
    have hmem : variableName ∈ (Scan.split Scan.bars body).1 := by
      rw [hpieces]
      exact List.mem_cons_self
    exact absurd h (Scan.ne_nil_of_mem_tidy hmem)

theorem Expression.parse_of_plain {body : Text}
    (hplain : ∀ c ∈ body, isQuote c = false ∧ c ≠ '(' ∧ c ≠ ')' ∧ c ≠ ':' ∧ c ≠ '|')
    (hstrip : Text.strip body = body) (hne : body ≠ []) :
    parse body = { variableName := body } := by
  have hcrosses : Scan.Crosses Scan.bars {} none body {} := by
    apply Scan.crosses_of_plain
    intro c hc
    simpa [Scan.bars] using hplain c hc
  have hpieces : (Scan.split Scan.bars body).1 = [body] := by
    rw [Scan.split, hcrosses []]
    apply Scan.tidy_eq_self
    · simpa using hstrip
    · simpa using hne
  rw [parse, hpieces]
  rfl

theorem Expression.variableName_parse_cases (body : Text) :
    (parse body).variableName = [] ∨ (parse body).variableName ∈ (Scan.split Scan.bars body).1 := by
  rw [parse]
  cases hpieces : (Scan.split Scan.bars body).1 with
  | nil => exact .inl rfl
  | cons variableName segments => exact .inr List.mem_cons_self

theorem Expression.isInfix_variableName_parse (body : Text) :
    (parse body).variableName <:+: body := by
  rcases variableName_parse_cases body with hempty | hmem
  · rw [hempty]
    exact List.nil_infix
  · exact Scan.isInfix_of_mem_split hmem

theorem Expression.strip_variableName (body : Text) :
    Text.strip (parse body).variableName = (parse body).variableName := by
  rcases variableName_parse_cases body with hempty | hmem
  · rw [hempty]
    rfl
  · exact Scan.strip_of_mem_tidy hmem

end Clippings
