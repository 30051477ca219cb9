import Clippings.Text.Basic
import Mathlib.Data.List.Infix

namespace Clippings.Text

theorem extendHead_append (c : CodePoint) {pieces : List Text} (hne : pieces ≠ [])
    (more : List Text) :
    extendHead c (pieces ++ more) = extendHead c pieces ++ more := by
  cases pieces with
  | nil => exact absurd rfl hne
  | cons piece rest => rfl

theorem splitOn_append_cons (sep : CodePoint) (s t : Text) :
    splitOn sep (s ++ sep :: t) = splitOn sep s ++ splitOn sep t := by
  induction s with
  | nil => simp [splitOn]
  | cons c rest ih =>
      rw [List.cons_append, splitOn, splitOn]
      split
      · rw [ih, List.cons_append]
      · rw [ih, extendHead_append c (splitOn_ne_nil sep rest)]

theorem splitOn_eq_singleton {sep : CodePoint} {text : Text} (h : sep ∉ text) :
    splitOn sep text = [text] := by
  induction text with
  | nil => rfl
  | cons c rest ih =>
      simp only [List.mem_cons, not_or] at h
      rw [splitOn, if_neg (Ne.symm h.1), ih h.2]
      rfl

theorem append_cons_inj {c : CodePoint} {x y s t : Text} (hx : c ∉ x) (hy : c ∉ y)
    (h : x ++ c :: s = y ++ c :: t) : x = y ∧ s = t := by
  have hpieces := congrArg (splitOn c) h
  rw [splitOn_append_cons, splitOn_append_cons, splitOn_eq_singleton hx,
    splitOn_eq_singleton hy] at hpieces
  obtain rfl := (List.cons.inj hpieces).1
  exact ⟨rfl, (List.cons.inj (List.append_cancel_left h)).2⟩

theorem not_mem_of_mem_splitOn {sep : CodePoint} {text piece : Text}
    (h : piece ∈ splitOn sep text) :
    sep ∉ piece := by
  induction text generalizing piece with
  | nil =>
      obtain rfl : piece = [] := by simpa [splitOn] using h
      simp
  | cons c rest ih =>
      rw [splitOn] at h
      split at h
      · rcases List.mem_cons.mp h with rfl | hrest
        · simp
        · exact ih hrest
      · next hc =>
        cases hpieces : splitOn sep rest with
        | nil => exact absurd hpieces (splitOn_ne_nil sep rest)
        | cons first others =>
            rw [hpieces, extendHead, List.mem_cons] at h
            rcases h with rfl | hother
            · have hfirst : sep ∉ first := ih (by simp [hpieces])
              simp [hfirst, Ne.symm hc]
            · exact ih (by simp [hpieces, hother])

theorem isInfix_join (sep : Text) {pieces : List Text} {piece : Text} (h : piece ∈ pieces) :
    piece <:+: join sep pieces := by
  induction pieces with
  | nil => simp at h
  | cons first rest ih =>
      cases rest with
      | nil =>
          obtain rfl : piece = first := by simpa using h
          exact List.infix_rfl
      | cons next rest =>
          rcases List.mem_cons.mp h with rfl | hrest
          · rw [join, List.append_assoc]
            exact (List.prefix_append _ _).isInfix
          · exact (ih hrest).trans (List.suffix_append _ _).isInfix

theorem isInfix_of_mem_splitOn {sep : CodePoint} {text piece : Text}
    (h : piece ∈ splitOn sep text) :
    piece <:+: text := by
  rw [← join_splitOn sep text]
  exact isInfix_join [sep] h

theorem mem_join {sep : Text} {pieces : List Text} {c : CodePoint} (h : c ∈ join sep pieces) :
    c ∈ sep ∨ ∃ piece ∈ pieces, c ∈ piece := by
  induction pieces with
  | nil => simp [join] at h
  | cons first rest ih =>
      cases rest with
      | nil => exact .inr ⟨first, by simp, by simpa [join] using h⟩
      | cons next rest =>
          simp only [join, List.mem_append, or_assoc] at h
          rcases h with hfirst | hsep | hrest
          · exact .inr ⟨first, by simp, hfirst⟩
          · exact .inl hsep
          · rcases ih hrest with hsep | ⟨piece, hpiece, hc⟩
            · exact .inl hsep
            · exact .inr ⟨piece, by simp [hpiece], hc⟩

theorem isWhole_join {sep : Text} {pieces : List Text} (hsep : sep.IsWhole)
    (h : ∀ piece ∈ pieces, piece.IsWhole) : (join sep pieces).IsWhole := by
  intro c hc
  rcases mem_join hc with hmem | ⟨piece, hpiece, hmem⟩
  · exact hsep c hmem
  · exact h piece hpiece c hmem

theorem splitOn_join {sep : CodePoint} {pieces : List Text} (hne : pieces ≠ [])
    (h : ∀ piece ∈ pieces, sep ∉ piece) : splitOn sep (join [sep] pieces) = pieces := by
  induction pieces with
  | nil => exact absurd rfl hne
  | cons first rest ih =>
      cases rest with
      | nil => exact splitOn_eq_singleton (h first (by simp))
      | cons next rest =>
          have hrest : splitOn sep (join [sep] (next :: rest)) = next :: rest :=
            ih (by simp) (fun piece hpiece => h piece (by simp [hpiece]))
          rw [join, List.append_assoc, List.singleton_append, splitOn_append_cons, hrest,
            splitOn_eq_singleton (h first (by simp))]
          rfl

theorem join_append {sep : Text} {s t : List Text} (hs : s ≠ []) (ht : t ≠ []) :
    join sep (s ++ t) = join sep s ++ sep ++ join sep t := by
  induction s with
  | nil => exact absurd rfl hs
  | cons first rest ih =>
      cases rest with
      | nil =>
          cases t with
          | nil => exact absurd rfl ht
          | cons next others => rfl
      | cons next rest =>
          rw [List.cons_append, List.cons_append, join, ← List.cons_append, ih (by simp), join]
          simp only [List.append_assoc]

theorem exists_of_head?_join {sep : Text} {pieces : List Text} {c : CodePoint}
    (hne : ∀ piece ∈ pieces, piece ≠ []) (hc : (join sep pieces).head? = some c) :
    ∃ piece ∈ pieces, piece.head? = some c := by
  cases pieces with
  | nil => simp [join] at hc
  | cons first rest =>
      refine ⟨first, List.mem_cons_self, ?_⟩
      cases rest with
      | nil => exact hc
      | cons next others =>
          rwa [join, List.append_assoc,
            List.head?_append_of_ne_nil _ (hne first List.mem_cons_self)] at hc

theorem exists_of_getLast?_join {sep : Text} {pieces : List Text} {c : CodePoint}
    (hne : ∀ piece ∈ pieces, piece ≠ []) (hc : (join sep pieces).getLast? = some c) :
    ∃ piece ∈ pieces, piece.getLast? = some c := by
  induction pieces with
  | nil => simp [join] at hc
  | cons first rest ih =>
      cases rest with
      | nil => exact ⟨first, List.mem_cons_self, hc⟩
      | cons next others =>
          have hrest : join sep (next :: others) ≠ [] := by
            intro hnil
            have hmem : next ∈ next :: others := List.mem_cons_self
            have hinfix := isInfix_join sep hmem
            rw [hnil, List.infix_nil] at hinfix
            exact hne next (by simp) hinfix
          rw [join, List.getLast?_append_of_ne_nil _ hrest] at hc
          obtain ⟨piece, hpiece, hlast⟩ :=
            ih (fun piece hpiece => hne piece (List.mem_cons_of_mem _ hpiece)) hc
          exact ⟨piece, List.mem_cons_of_mem _ hpiece, hlast⟩

theorem exists_splitOn_eq (sep : CodePoint) (text : Text) :
    ∃ rest, splitOn sep text = (cut sep text).1 :: rest := by
  induction text with
  | nil => exact ⟨[], rfl⟩
  | cons c text ih =>
      obtain ⟨rest, hrest⟩ := ih
      rw [splitOn, cut]
      split
      · exact ⟨splitOn sep text, rfl⟩
      · exact ⟨rest, by rw [hrest]; rfl⟩

theorem cut_append_cons {sep : CodePoint} {before : Text} (h : sep ∉ before) (after : Text) :
    cut sep (before ++ sep :: after) = (before, some after) := by
  induction before with
  | nil => simp [cut]
  | cons c before ih =>
      obtain ⟨hc, hbefore⟩ : sep ≠ c ∧ sep ∉ before := by simpa using h
      rw [List.cons_append, cut, if_neg hc.symm, ih hbefore]

theorem cut_of_not_mem {sep : CodePoint} {text : Text} (h : sep ∉ text) :
    cut sep text = (text, none) := by
  induction text with
  | nil => rfl
  | cons c text ih =>
      obtain ⟨hc, htext⟩ : sep ≠ c ∧ sep ∉ text := by simpa using h
      rw [cut, if_neg hc.symm, ih htext]

end Clippings.Text
