import Clippings.Proofs.Note.Folder
import Clippings.Proofs.Text.Spacing

namespace Clippings.Note

structure IsStem (text : Text) : Prop where
  ne_nil : text ≠ []
  length_le : text.length ≤ nameLimit
  isReserved : ∀ c ∈ text, Text.isReserved c = false
  collapsed : text.IsCollapsed
  trimmed : Text.strip text = text

theorem stem_cases (title : Text) :
    stem title = "Untitled" ∨ stem title = Text.strip ((Text.safeName title).take nameLimit) := by
  rw [stem]
  split
  · exact .inl rfl
  · exact .inr rfl

theorem isStem_stem (title : Text) : IsStem (stem title) := by
  have hne := stem_ne_nil title
  have hfree : ∀ c ∈ stem title, Text.isReserved c = false := fun _ hc => isReserved_of_mem_stem hc
  rcases stem_cases title with hstem | hstem
  · rw [hstem] at hne hfree ⊢
    exact ⟨hne, by decide, hfree, Text.isCollapsed_collapseBlanks "Untitled", by decide⟩
  · rw [hstem] at hne hfree ⊢
    refine ⟨hne, ?_, hfree, ?_, Text.strip_strip _⟩
    · exact (Text.length_strip_le _).trans (List.length_take_le _ _)
    · exact (Text.isCollapsed_safeName title).of_isInfix
        ((Text.strip_isInfix _).trans (List.take_prefix _ _).isInfix)

theorem IsStem.stem_eq {text : Text} (h : IsStem text) : stem text = text := by
  rw [stem, h.collapsed.safeName_eq h.trimmed h.isReserved, List.take_of_length_le h.length_le,
    h.trimmed]
  split
  · exact absurd rfl h.ne_nil
  · rfl

theorem stem_safeName (title : Text) : stem (Text.safeName title) = stem title := by
  rw [stem, Text.safeName_safeName, ← stem]

theorem nameFor_safeName (title ending : Text) :
    nameFor (Text.safeName title) ending = nameFor title ending := by
  rw [nameFor, nameFor, stem_safeName]

/-- The name of a file is its ending behind a text that is not empty, has at most 200 characters and
none that is reserved, no blank at its ends, and no blanks but single spaces between characters that
are none. The name for that text is the same again. -/
theorem nameFor_normal (title ending : Text) :
    ∃ text, nameFor title ending = text ++ ending ∧
      text ≠ [] ∧ text.length ≤ 200 ∧
      (∀ c ∈ ("<>:\"/\\|?*" : Text), c ∉ text) ∧
      Text.strip text = text ∧
      (∀ before c after, text = before ++ c :: after → Text.isBlank c = true →
        c = ' ' ∧ (∃ a ∈ before.getLast?, Text.isBlank a = false) ∧
          ∃ b ∈ after.head?, Text.isBlank b = false) ∧
      nameFor text ending = text ++ ending := by
  have hstem := isStem_stem title
  refine ⟨stem title, rfl, hstem.ne_nil, hstem.length_le, ?_, hstem.trimmed, ?_, ?_⟩
  · intro c hc hmem
    have hreserved : ("<>:\"/\\|?*" : Text).all Text.isReserved = true := by decide
    exact absurd (hstem.isReserved c hmem) (by simp [List.all_eq_true.mp hreserved c hc])
  · intro before c after htext hc
    exact hstem.collapsed.between hstem.trimmed htext hc
  · rw [nameFor, hstem.stem_eq]

end Clippings.Note
