import Clippings.Proofs.Text.Cutting
import Clippings.Screen.Frame
/-!
What the screen shows of texts that can be encoded can be encoded, too.
-/

namespace Clippings.Screen

theorem mem_expandTabs {tab column : Nat} {text : Text} {c : CodePoint}
    (h : c ∈ expandTabs tab column text) : c ∈ text ∨ c = ' ' := by
  induction text generalizing column with
  | nil => exact .inl h
  | cons d rest ih =>
      rw [expandTabs] at h
      split at h
      · rcases List.mem_append.mp h with hspace | hrest
        · exact .inr (List.eq_of_mem_replicate hspace)
        · exact (ih hrest).imp_left (List.mem_cons_of_mem d)
      · split at h
        · rcases List.mem_cons.mp h with rfl | hrest
          · exact .inl (.head _)
          · exact (ih hrest).imp_left (List.mem_cons_of_mem d)
        · rcases List.mem_cons.mp h with rfl | hrest
          · exact .inl (.head _)
          · exact (ih hrest).imp_left (List.mem_cons_of_mem d)

theorem isWhole_shown {text : Text} (h : text.IsWhole) : (shown text).IsWhole := by
  refine Text.isWhole_append.mpr ⟨fun c hc => ?_, by decide⟩
  rcases mem_expandTabs hc with hmem | rfl
  · exact h c (List.mem_of_mem_filter hmem)
  · rfl

theorem isWhole_draw {rule : Rule} (h : Text.IsWhole [rule.left, rule.line, rule.cross, rule.right])
    (widths : List Nat) : (rule.draw widths).IsWhole := by
  simp only [Text.isWhole_cons] at h
  obtain ⟨hleft, hline, hcross, hright, hnil⟩ := h
  simp only [Rule.draw, Text.isWhole_append, Text.isWhole_cons]
  refine ⟨⟨hleft, Text.isWhole_join (Text.isWhole_cons.mpr ⟨hcross, hnil⟩) ?_⟩, hright, rfl, hnil⟩
  intro piece hpiece
  obtain ⟨width, -, rfl⟩ := List.mem_map.mp hpiece
  exact Text.isWhole_replicate width hline

theorem isWhole_drawRow {line : CodePoint} (hline : line.isHalf = false) (widths : List Nat)
    {cells : List Text} (h : ∀ cell ∈ cells, cell.IsWhole) :
    (drawRow line widths cells).IsWhole := by
  have hrule : Text.IsWhole [line] := Text.isWhole_cons.mpr ⟨hline, Text.isWhole_nil⟩
  simp only [drawRow, Text.isWhole_append, Text.isWhole_cons]
  refine ⟨⟨hline, Text.isWhole_join hrule fun piece hpiece => ?_⟩, hline, rfl, Text.isWhole_nil⟩
  obtain ⟨⟨width, cell⟩, hcell, rfl⟩ := List.mem_map.mp hpiece
  have hwhole := h cell (List.of_mem_zip hcell).2
  simp only [fill, Text.isWhole_append, Text.isWhole_cons]
  exact ⟨⟨rfl, hwhole, Text.isWhole_replicate _ rfl⟩, rfl, Text.isWhole_nil⟩

theorem isWhole_table {head : List Text} {rows : List (List Text)}
    (hhead : ∀ cell ∈ head, cell.IsWhole) (hrows : ∀ row ∈ rows, ∀ cell ∈ row, cell.IsWhole) :
    (table head rows).IsWhole := by
  have hrule {rule : Rule} (hrule : rule ∈ [topRule, headRule, bottomRule]) (widths : List Nat) :
      (rule.draw widths).IsWhole := by
    refine isWhole_draw ?_ widths
    exact (by decide : ∀ rule ∈ [topRule, headRule, bottomRule],
      Text.IsWhole [rule.left, rule.line, rule.cross, rule.right]) rule hrule
  simp only [table, Text.isWhole_append]
  exact ⟨⟨⟨⟨hrule (by simp) _, isWhole_drawRow rfl _ hhead⟩, hrule (by simp) _⟩,
    Text.isWhole_flatMap fun row hrow => isWhole_drawRow rfl _ (hrows row hrow)⟩,
    hrule (by simp) _⟩

end Clippings.Screen
