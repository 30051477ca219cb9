import Clippings.Proofs.Text.Trim
import Clippings.Text.FileName
import Mathlib.Data.List.Chain
import Mathlib.Data.List.Infix

namespace Clippings.Text

theorem mem_of_mem_collapseBlanks {text : Text} {c : CodePoint} (h : c ∈ collapseBlanks text) :
    c = ' ' ∨ c ∈ text := by
  fun_induction collapseBlanks text with
  | case1 => simp at h
  | case2 d hblank => exact .inl (by simpa using h)
  | case3 d hblank => exact .inr h
  | case4 d next rest hblank hnext ih =>
      rcases ih h with hspace | hmem
      · exact .inl hspace
      · exact .inr (List.mem_cons_of_mem d hmem)
  | case5 d next rest hblank hnext ih =>
      rcases List.mem_cons.mp h with hspace | hrest
      · exact .inl hspace
      · rcases ih hrest with hspace | hmem
        · exact .inl hspace
        · exact .inr (List.mem_cons_of_mem d hmem)
  | case6 d next rest hblank ih =>
      rcases List.mem_cons.mp h with rfl | hrest
      · exact .inr (by simp)
      · rcases ih hrest with hspace | hmem
        · exact .inl hspace
        · exact .inr (List.mem_cons_of_mem d hmem)

theorem isReserved_of_mem_safeName {text : Text} {c : CodePoint} (h : c ∈ safeName text) :
    isReserved c = false := by
  rcases mem_of_mem_collapseBlanks (mem_of_mem_strip h) with rfl | hmem
  · decide
  · simpa using (List.mem_filter.mp hmem).2

/-- The only blanks of a text are spaces, and no two of them are neighbours. -/
structure IsCollapsed (text : Text) : Prop where
  eq_space : ∀ c ∈ text, isBlank c = true → c = ' '
  single : text.IsChain fun a b => isBlank a = true → isBlank b = false

theorem IsCollapsed.of_isInfix {part text : Text} (h : text.IsCollapsed) (hpart : part <:+: text) :
    part.IsCollapsed where
  eq_space c hc := h.eq_space c (hpart.subset hc)
  single := h.single.infix hpart

theorem IsCollapsed.cons {c : CodePoint} {text : Text} (h : text.IsCollapsed)
    (hspace : isBlank c = true → c = ' ')
    (hnext : isBlank c = true → ∀ next ∈ text.head?, isBlank next = false) :
    IsCollapsed (c :: text) where
  eq_space := List.forall_mem_cons.mpr ⟨hspace, h.eq_space⟩
  single := List.isChain_cons.mpr ⟨fun next hmem hblank => hnext hblank next hmem, h.single⟩

theorem head?_collapseBlanks_of_not_blank {text : Text}
    (h : ∀ c ∈ text.head?, isBlank c = false) : (collapseBlanks text).head? = text.head? := by
  fun_cases collapseBlanks text with
  | case1 => rfl
  | case3 | case6 => rfl
  | case2 c hblank | case4 c next rest hblank | case5 c next rest hblank =>
      have hhead := h c rfl
      rw [hblank] at hhead
      cases hhead

theorem isCollapsed_collapseBlanks (text : Text) : (collapseBlanks text).IsCollapsed := by
  have hnil : IsCollapsed [] := ⟨by simp, .nil⟩
  fun_induction collapseBlanks text with
  | case1 => exact hnil
  | case2 c hblank => exact hnil.cons (fun _ => rfl) (by simp)
  | case3 c hblank => exact hnil.cons (fun h => absurd h hblank) (by simp)
  | case4 c next rest hblank hnext ih => exact ih
  | case5 c next rest hblank hnext ih =>
      have hhead : (collapseBlanks (next :: rest)).head? = some next :=
        head?_collapseBlanks_of_not_blank (by simpa using hnext)
      refine ih.cons (fun _ => rfl) fun _ => ?_
      simpa [hhead] using hnext
  | case6 c next rest hblank ih =>
      exact ih.cons (fun h => absurd h hblank) fun h => absurd h hblank

theorem IsCollapsed.collapseBlanks_eq {text : Text} (h : text.IsCollapsed) :
    collapseBlanks text = text := by
  fun_induction collapseBlanks text with
  | case1 => rfl
  | case2 c hblank => rw [h.eq_space c (by simp) hblank]
  | case3 c hblank => rfl
  | case4 c next rest hblank hnext ih =>
      have hsingle := (List.isChain_cons_cons.mp h.single).1 hblank
      rw [hsingle] at hnext
      cases hnext
  | case5 c next rest hblank hnext ih =>
      rw [ih (h.of_isInfix (List.suffix_cons c _).isInfix), h.eq_space c (by simp) hblank]
  | case6 c next rest hblank ih =>
      rw [ih (h.of_isInfix (List.suffix_cons c _).isInfix)]

/-- In a text without blanks at its ends that is collapsed, every blank is a space between two
characters that are no blanks. -/
theorem IsCollapsed.between {text : Text} (h : text.IsCollapsed) (htrimmed : strip text = text)
    {before after : Text} {c : CodePoint} (htext : text = before ++ c :: after)
    (hc : isBlank c = true) :
    c = ' ' ∧ (∃ a ∈ before.getLast?, isBlank a = false) ∧
      ∃ b ∈ after.head?, isBlank b = false := by
  subst htext
  refine ⟨h.eq_space c (by simp) hc, ?_, ?_⟩
  · cases before using List.reverseRecOn with
    | nil =>
        have hends : isBlank c = false := isBlank_head htrimmed rfl
        rw [hc] at hends
        cases hends
    | append_singleton front a =>
        refine ⟨a, by simp, ?_⟩
        have hpair : IsCollapsed [a, c] := h.of_isInfix ⟨front, after, by simp⟩
        have hnext := (List.isChain_cons_cons.mp hpair.single).1
        by_contra ha
        rw [hnext (by simpa using ha)] at hc
        cases hc
  · cases after with
    | nil =>
        have hends : isBlank c = false := isBlank_getLast htrimmed (by simp)
        rw [hc] at hends
        cases hends
    | cons b rest =>
        have hpair : IsCollapsed [c, b] := h.of_isInfix ⟨before, rest, by simp⟩
        exact ⟨b, rfl, (List.isChain_cons_cons.mp hpair.single).1 hc⟩

theorem isCollapsed_safeName (text : Text) : (safeName text).IsCollapsed :=
  (isCollapsed_collapseBlanks _).of_isInfix (strip_isInfix _)

theorem strip_safeName (text : Text) : strip (safeName text) = safeName text := strip_strip _

theorem IsCollapsed.safeName_eq {text : Text} (h : text.IsCollapsed)
    (htrimmed : strip text = text) (hfree : ∀ c ∈ text, isReserved c = false) :
    safeName text = text := by
  have hfilter : text.filter (!isReserved ·) = text :=
    List.filter_eq_self.mpr fun c hc => by simp [hfree c hc]
  rw [safeName, hfilter, h.collapseBlanks_eq, htrimmed]

theorem safeName_safeName (text : Text) : safeName (safeName text) = safeName text :=
  (isCollapsed_safeName text).safeName_eq (strip_safeName text)
    fun _ hc => isReserved_of_mem_safeName hc

end Clippings.Text
