import Clippings.Proofs.Expression.Pieces
import Clippings.Proofs.Template.Checking
import Clippings.Proofs.Text.Nesting

namespace Clippings

namespace Scan

/-- What of a text stands outside of quotes: `quote` is the quote that is open, and `before` the
character before the text. -/
def outsideFrom (quote before : Option CodePoint) : Text → Text
  | [] => []
  | c :: rest =>
    if isQuote c ∧ before ≠ some (.char '\\') then
      outsideFrom (if quote = none then some c else if quote = some c then none else quote)
        (some c) rest
    else if quote = none then c :: outsideFrom none (some c) rest
    else outsideFrom quote (some c) rest

def outsideQuotes (text : Text) : Text := outsideFrom none none text

theorem depth_step_add_excess (state : ScanState) (before : Option CodePoint) (c : CodePoint)
    (rest : Text) :
    (state.step before c).depth +
        Text.excess (outsideFrom (state.step before c).quote (some c) rest) =
      state.depth + Text.excess (outsideFrom state.quote before (c :: rest)) := by
  obtain ⟨quote, depth⟩ := state
  by_cases hquote : isQuote c = true ∧ before ≠ some (.char '\\')
  · cases quote with
    | none => simp [ScanState.step, outsideFrom, hquote]
    | some open_ =>
        by_cases hsame : c = open_
        · subst hsame
          simp [ScanState.step, outsideFrom, hquote]
        · simp [ScanState.step, outsideFrom, hquote, hsame, Ne.symm hsame]
  · cases quote with
    | some open_ => simp [ScanState.step, ScanState.inQuotes, outsideFrom, hquote]
    | none =>
        by_cases hopening : c = '('
        · simp [ScanState.step, ScanState.inQuotes, outsideFrom, hopening, isQuote]
          omega
        · by_cases hclosing : c = ')'
          · simp [ScanState.step, ScanState.inQuotes, outsideFrom, hclosing, isQuote]
            omega
          · simp [ScanState.step, ScanState.inQuotes, outsideFrom, hquote, hopening, hclosing]

theorem depth_piecesFrom (cuts : Cuts) (state : ScanState) (before : Option CodePoint)
    (current text : Text) :
    (piecesFrom cuts state before current text).2.depth =
      state.depth + Text.excess (outsideFrom state.quote before text) := by
  fun_induction piecesFrom cuts state before current text with
  | case1 => simp [outsideFrom]
  | case2 state before current c rest hcut pieces final hpieces ih =>
      have hstep := depth_step_add_excess state before c rest
      rw [step_of_cutsAt hcut] at hstep
      rw [← hstep, ← ih, hpieces]
  | case3 state before current c rest hcut ih => rw [ih, depth_step_add_excess]

theorem depth_finalState (body : Text) :
    (finalState body).depth = Text.excess (outsideQuotes body) :=
  (depth_piecesFrom bars {} none [] body).trans (Int.zero_add _)

end Scan

def Finding.parenthesesStart : Text := "Unbalanced parentheses in '"

theorem Finding.eq_of_message_eq_parentheses {finding : Finding} {body : Text}
    (h : finding.message = (parentheses body).message) : finding = parentheses body := by
  have hstart : Text.startsWith finding.message parenthesesStart = true := by
    rw [h]
    exact List.isPrefixOf_iff_prefix.mpr
      ⟨Template.brace body ++ "'", (List.append_assoc _ _ _).symm⟩
  cases finding with
  | parentheses other =>
      have hbraces : parenthesesStart ++ Template.brace other =
          parenthesesStart ++ Template.brace body := List.append_cancel_right h
      have hbodies : ("\x7b\x7b" : Text) ++ other = "\x7b\x7b" ++ body :=
        List.append_cancel_right (List.append_cancel_left hbraces)
      rw [List.append_cancel_left hbodies]
  | _ => exact absurd hstart (Bool.eq_false_iff.mp rfl)

namespace Validation

theorem exists_of_mem_checkFilters {filters : FilterTable} {reported : List Text}
    {calls : List FilterCall} {finding : Finding}
    (h : finding ∈ (checkFilters filters reported calls).1) :
    ∃ name, finding = .unknownFilter name := by
  fun_induction checkFilters filters reported calls with
  | case1 => simp at h
  | case2 reported call rest hknown ih => exact ih h
  | case3 reported call rest hnew findings reported' hrest ih =>
      rcases List.mem_cons.mp h with rfl | hmem
      · exact ⟨call.name, rfl⟩
      · rw [hrest] at ih
        exact ih hmem

theorem mem_checkBody_parentheses {body other : Text} {expression : Expression} :
    .parentheses body ∈ checkBody other expression ↔
      other = body ∧ (Scan.finalState body).depth ≠ 0 := by
  by_cases hsame : other = body
  · subst hsame
    simp [checkBody]
  · have hne : body ≠ other := Ne.symm hsame
    simp [checkBody, hsame, hne]

theorem mem_checkExpressions_parentheses {filters : FilterTable} {reported : List Text}
    {items : List (Text × Expression)} {body : Text} :
    .parentheses body ∈ checkExpressions filters reported items ↔
      ∃ item ∈ items, item.1 = body ∧ item.2.variableName ≠ [] ∧
        (Scan.finalState body).depth ≠ 0 := by
  induction items generalizing reported with
  | nil => simp [checkExpressions]
  | cons item rest ih =>
      obtain ⟨other, expression⟩ := item
      rw [checkExpressions, List.exists_mem_cons_iff]
      by_cases hempty : expression.variableName = []
      · rw [if_pos (by simpa using hempty)]
        simp [ih, hempty]
      · have hnone : .parentheses body ∉ (checkFilters filters reported expression.filters).1 := by
          intro hmem
          obtain ⟨name, hname⟩ := exists_of_mem_checkFilters hmem
          cases hname
        rw [if_neg (by simpa using hempty)]
        simp only [List.mem_append, mem_checkBody_parentheses, hnone, or_false, ih]
        simp [hempty]

end Validation

namespace Engine

theorem ne_nil_of_mem_placeholders {template body : Text} (h : body ∈ placeholders template) :
    template ≠ [] := by
  rintro rfl
  cases h

theorem mem_warnings_parentheses (engine : Engine) {template body : Text}
    (hbody : body ∈ placeholders template) (hvariable : (Expression.parse body).variableName ≠ [])
    {expectations : Expectations} (hstrictness : expectations.strictness ≠ .permissive) :
    (Finding.parentheses body).message ∈
        (engine.validate expectations (some template)).1.warnings.map Finding.message ↔
      Text.excess (Scan.outsideQuotes body) ≠ 0 := by
  have hfinding : .parentheses body ∈ Validation.findings engine.dialect.filters template ↔
      Text.excess (Scan.outsideQuotes body) ≠ 0 := by
    rw [Validation.findings, Validation.mem_checkExpressions_parentheses, Scan.depth_finalState]
    constructor
    · rintro ⟨-, -, -, -, hdepth⟩
      exact hdepth
    · intro hdepth
      exact ⟨_, List.mem_map_of_mem hbody, rfl, hvariable, hdepth⟩
  have hvariables : .parentheses body ∉
      Validation.checkVariables expectations.known (engine.variableNames template).1 := by
    unfold Validation.checkVariables
    split
    · simp
    · split <;> simp
  rw [validate_of_ne_nil (ne_nil_of_mem_placeholders hbody), warnings_validateText hstrictness,
    ← hfinding, List.mem_map]
  constructor
  · rintro ⟨finding, hmem, hmessage⟩
    obtain rfl := Finding.eq_of_message_eq_parentheses hmessage
    rcases List.mem_append.mp hmem with hmem | hmem
    · exact List.mem_of_mem_filter hmem
    · exact absurd hmem hvariables
  · intro hmem
    exact ⟨_, List.mem_append_left _ (List.mem_filter.mpr ⟨hmem, rfl⟩), rfl⟩

/-- A body is warned about if it opens and closes a different number of parentheses outside of
quotes. So it is only warned about if one of them has no partner, and always then, as long as no
part at its start closes more of them than it opens. -/
theorem validate_parentheses (engine : Engine) {template body : Text}
    (hbody : body ∈ placeholders template) (hvariable : (Expression.parse body).variableName ≠ [])
    {expectations : Expectations} (hstrictness : expectations.strictness ≠ .permissive) :
    let warned := (Finding.parentheses body).message ∈
      (engine.validate expectations (some template)).1.warnings.map Finding.message
    let outside := Scan.outsideQuotes body
    (warned ↔ outside.count (.char '(') ≠ outside.count (.char ')')) ∧
      (warned → ¬ Text.WellNested outside) ∧
      ((∀ front, front <+: outside → front.count (.char ')') ≤ front.count (.char '(')) →
        (warned ↔ ¬ Text.WellNested outside)) := by
  intro warned outside
  have hwarned : warned ↔ Text.excess outside ≠ 0 :=
    engine.mem_warnings_parentheses hbody hvariable hstrictness
  have hcount : Text.excess outside ≠ 0 ↔
    outside.count (.char '(') ≠ outside.count (.char ')') := by
    unfold Text.excess
    omega
  have hsound : warned → ¬ Text.WellNested outside := by
    intro h hnested
    exact hwarned.mp h hnested.excess_eq_zero
  have hcomplete (hfronts : ∀ front, front <+: outside →
      front.count (.char ')') ≤ front.count (.char '(')) :
      ¬ Text.WellNested outside → warned := by
    intro hnested
    rw [hwarned]
    intro hexcess
    apply hnested
    rw [Text.wellNested_iff]
    refine ⟨hexcess, fun front hfront => ?_⟩
    have := hfronts front hfront
    unfold Text.excess
    omega
  exact ⟨hwarned.trans hcount, hsound, fun hfronts => ⟨hsound, hcomplete hfronts⟩⟩

theorem validate_parentheses_quoted :
    ("a|b:(\")\"" : Text) ∈ placeholders "\x7b\x7ba|b:(\")\"\x7d\x7d" ∧
      (Expression.parse "a|b:(\")\"").variableName ≠ [] ∧
      ¬ Text.WellNested (Scan.outsideQuotes "a|b:(\")\"") ∧
      (Finding.parentheses "a|b:(\")\"").message ∈
        (({} : Engine).validate {} (some "\x7b\x7ba|b:(\")\"\x7d\x7d")).1.warnings.map
          Finding.message := by
  have hbody : ("a|b:(\")\"" : Text) ∈ placeholders "\x7b\x7ba|b:(\")\"\x7d\x7d" := by decide
  have hvariable : (Expression.parse "a|b:(\")\"").variableName ≠ [] := by decide
  have hfronts : ∀ front ∈ (Scan.outsideQuotes "a|b:(\")\"").inits,
      front.count (.char ')') ≤ front.count (.char '(') := by decide
  obtain ⟨hcount, -, hnested⟩ :=
    @validate_parentheses {} _ _ hbody hvariable {} (by decide)
  have hwarned := hcount.mpr (by decide)
  exact ⟨hbody, hvariable,
    (hnested fun front h => hfronts front ((List.mem_inits front _).mpr h)).mp hwarned, hwarned⟩

/-- A body that closes a parenthesis first and opens one behind it gets no warning, although the
filter behind its bar is not found. -/
theorem validate_parentheses_closed_first :
    ("title)|upper(" : Text) ∈ placeholders "\x7b\x7btitle)|upper(\x7d\x7d" ∧
      (Expression.parse "title)|upper(").variableName ≠ [] ∧
      (Scan.finalState "title)|upper(").quote = none ∧
      ¬ Text.WellNested (Scan.outsideQuotes "title)|upper(") ∧
      (({} : Engine).validate {} (some "\x7b\x7btitle)|upper(\x7d\x7d")).1.warnings = [] := by
  refine ⟨by decide, by decide, by decide, fun hnested => ?_, by decide⟩
  have hfront : ("title)" : Text) <+: Scan.outsideQuotes "title)|upper(" := ⟨"|upper(", by decide⟩
  exact absurd (hnested.excess_nonneg hfront) (by decide)

end Engine

end Clippings
