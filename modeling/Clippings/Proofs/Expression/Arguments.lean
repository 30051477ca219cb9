import Clippings.Proofs.Expression.Writing
import Clippings.Proofs.Text.Cutting
import Mathlib.Data.List.Forall2

namespace Clippings.FilterCall

theorem unwrap_eq_self {text : Text}
    (hopen : text.head? = some (.char '(') → text.getLast? ≠ some (.char ')')) :
      unwrap text = text := by
  rw [unwrap, if_neg]
  simp only [Bool.and_eq_true, decide_eq_true_eq, not_and]
  exact hopen

theorem parseArgs_join_eq_map {pieces : List Text}
    (hwhole : ∀ piece ∈ pieces, Scan.split Scan.commas piece = ([piece], {}))
    (hopen : (Text.join [.char ','] pieces).head? = some (.char '(') →
      (Text.join [.char ','] pieces).getLast? ≠ some (.char ')')) :
    parseArgs (Text.join [.char ','] pieces) = pieces.map Scan.unquote := by
  have hpiece : ∀ piece ∈ pieces, Text.strip piece = piece ∧ piece ≠ [] := by
    intro piece hmem
    have hself : piece ∈ (Scan.split Scan.commas piece).1 := by simp [hwhole piece hmem]
    exact ⟨Scan.strip_of_mem_tidy hself, Scan.ne_nil_of_mem_tidy hself⟩
  have hne : ∀ piece ∈ pieces, piece ≠ [] := fun piece hmem => (hpiece piece hmem).2
  have hstrip : Text.strip (Text.join [.char ','] pieces) = Text.join [.char ','] pieces := by
    apply Text.strip_eq_self_of_ends
    · intro c hc
      obtain ⟨piece, hmem, hhead⟩ := Text.exists_of_head?_join hne hc
      exact Text.isBlank_head (hpiece piece hmem).1 hhead
    · intro c hc
      obtain ⟨piece, hmem, hlast⟩ := Text.exists_of_getLast?_join hne hc
      exact Text.isBlank_getLast (hpiece piece hmem).1 hlast
  rw [parseArgs, hstrip, unwrap_eq_self hopen, Scan.split_join rfl (by decide) hwhole]

/-- What an argument is, written as a piece of text: a quoted text stands for the text between its
quotes, and everything else for itself. -/
structure Means (piece arg : Text) : Prop where
  quoted : ∀ s : QuotedText, s.written = piece → arg = s.text
  plain : (∀ s : QuotedText, s.written ≠ piece) → arg = piece

/-- Arguments that the scanner leaves whole arrive one by one from between commas, unless the whole
text starts and ends with parentheses. Each arrives as what it means, unless it starts and ends with
the same quote without being one quoted text. -/
theorem parseArgs_join {pieces : List Text}
    (hwhole : ∀ piece ∈ pieces, (Scan.split Scan.commas piece).1 = [piece])
    (hbalanced : ∀ piece ∈ pieces, (Scan.split Scan.commas piece).2.isBalanced = true)
    (hopen : (Text.join [.char ','] pieces).head? = some (.char '(') →
      (Text.join [.char ','] pieces).getLast? ≠ some (.char ')')) :
    List.Forall₂
      (fun piece arg =>
        (Scan.isQuoted piece = true → ∃ s : QuotedText, s.written = piece) → Means piece arg)
      pieces (parseArgs (Text.join [.char ','] pieces)) := by
  have hsplit : ∀ piece ∈ pieces, Scan.split Scan.commas piece = ([piece], {}) :=
    fun piece hmem =>
      Prod.ext (hwhole piece hmem) (ScanState.eq_of_isBalanced (hbalanced piece hmem))
  rw [parseArgs_join_eq_map hsplit hopen, List.forall₂_map_right_iff, List.forall₂_same]
  intro piece _ hrun
  constructor
  · rintro s rfl
    exact s.unquote_written
  · intro hnone
    have hquoted : ¬ Scan.isQuoted piece = true := by
      intro hends
      obtain ⟨s, hs⟩ := hrun hends
      exact hnone s hs
    rw [Scan.unquote, if_neg hquoted]

theorem parseArgs_join_mixed :
    let pieces : List Text := ["\"x, y\"", "'it\\'s'", "(a,b):c", "d(\",\")"]
    (∀ piece ∈ pieces, (Scan.split Scan.commas piece).1 = [piece]) ∧
      (∀ piece ∈ pieces, (Scan.split Scan.commas piece).2.isBalanced = true) ∧
      ((Text.join [.char ','] pieces).head? = some (.char '(') →
        (Text.join [.char ','] pieces).getLast? ≠ some (.char ')')) ∧
      List.Forall₂
        (fun piece arg =>
          (Scan.isQuoted piece = true → ∃ s : QuotedText, s.written = piece) → Means piece arg)
        pieces (["x, y", "it\\'s", "(a,b):c", "d(\",\")"] : List Text) := by
  intro pieces
  have hwhole : ∀ piece ∈ pieces, (Scan.split Scan.commas piece).1 = [piece] := by decide
  have hbalanced : ∀ piece ∈ pieces, (Scan.split Scan.commas piece).2.isBalanced = true := by
    decide
  have hopen : (Text.join [.char ','] pieces).head? = some (.char '(') →
      (Text.join [.char ','] pieces).getLast? ≠ some (.char ')') := by decide
  have hargs : parseArgs (Text.join [.char ','] pieces) =
      (["x, y", "it\\'s", "(a,b):c", "d(\",\")"] : List Text) := by decide
  exact ⟨hwhole, hbalanced, hopen, hargs ▸ parseArgs_join hwhole hbalanced hopen⟩

/-- Two arguments in parentheses arrive as one, since the outermost parentheses are taken for a
pair, and two quoted texts in one argument lose a quote each, since these are taken for one too. -/
theorem parseArgs_join_outermost :
    (∀ pieces ∈ ([["(a)", "(b)"], ["'a' 'b'", "c"]] : List (List Text)),
        ∀ piece ∈ pieces, (Scan.split Scan.commas piece).1 = [piece] ∧
          (Scan.split Scan.commas piece).2.isBalanced = true) ∧
      ¬ List.Forall₂ Means ["(a)", "(b)"] (parseArgs (Text.join [.char ','] ["(a)", "(b)"])) ∧
      ¬ List.Forall₂ Means ["'a' 'b'", "c"]
        (parseArgs (Text.join [.char ','] ["'a' 'b'", "c"])) := by
  refine ⟨by decide, ?_, ?_⟩
  · have hargs : parseArgs (Text.join [.char ','] ["(a)", "(b)"]) = [("a),(b" : Text)] := by decide
    intro hmeans
    have hlength := hmeans.length_eq
    rw [hargs] at hlength
    simp at hlength
  · have hargs : parseArgs (Text.join [.char ','] ["'a' 'b'", "c"]) =
        [("a' 'b" : Text), ("c" : Text)] := by decide
    have hnone : ∀ s : QuotedText, s.written ≠ ("'a' 'b'" : Text) := by
      intro s hs
      have htext : s.text = ("a' 'b" : Text) := by
        rw [← s.unquote_written, hs]
        decide
      have hquote : some s.quote = some (.char '\'') := by
        rw [← s.head?_written, hs]
        decide
      rw [Option.some.injEq] at hquote
      have hescaped := s.escaped [.char 'a'] " 'b" (by rw [htext, hquote]; decide)
      simp at hescaped
    rw [hargs]
    rintro (_ | ⟨hfirst, -⟩)
    exact absurd (hfirst.plain hnone) (by decide)

end Clippings.FilterCall
