import Clippings.Text.Basic
import Mathlib.Data.List.Infix

namespace Clippings.Text

variable {part : Text}

theorem splitAtFrom_append (sep front rest : Text) :
    splitAtFrom sep front.length (front ++ rest) = splitAtFrom sep 0 rest := by
  induction front with
  | nil => rfl
  | cons c front ih => exact ih

theorem replace_nil (part new : Text) : replace part new [] = [] := rfl

theorem replace_append (hpart : part ≠ []) (new rest : Text) :
    replace part new (part ++ rest) = new ++ replace part new rest := by
  cases part with
  | nil => exact absurd rfl hpart
  | cons c part =>
      have hprefix : (c :: part).isPrefixOf (c :: (part ++ rest)) = true := by
        simp
      rw [replace, List.cons_append, splitAt, splitAtFrom, if_pos hprefix, List.length_cons,
        Nat.add_sub_cancel, splitAtFrom_append, join_nil_cons _ _ (splitAtFrom_ne_nil _ _ _)]
      rfl

theorem replace_cons {c : CodePoint} {rest : Text} (h : ¬ part <+: c :: rest) (new : Text) :
    replace part new (c :: rest) = c :: replace part new rest := by
  have hprefix : ¬ part.isPrefixOf (c :: rest) = true := by
    rwa [List.isPrefixOf_iff_prefix]
  rw [replace, splitAt, splitAtFrom, if_neg hprefix,
    join_extendHead _ _ _ (splitAtFrom_ne_nil _ _ _)]
  rfl

/-- A text in which `skipped` stands before the first occurrence of a part, and `rest` behind it. -/
inductive FirstAt (part : Text) : Text → Text → Text → Prop
  | here (rest : Text) : FirstAt part [] rest (part ++ rest)
  | there {c : CodePoint} {skipped rest text : Text} :
      ¬ part <+: c :: text → FirstAt part skipped rest text →
        FirstAt part (c :: skipped) rest (c :: text)

theorem exists_firstAt {text : Text} (h : part <:+: text) :
    ∃ skipped rest, FirstAt part skipped rest text := by
  induction text with
  | nil =>
      obtain rfl := List.infix_nil.mp h
      exact ⟨[], [], .here []⟩
  | cons c text ih =>
      by_cases hprefix : part <+: c :: text
      · obtain ⟨rest, hrest⟩ := hprefix
        exact ⟨[], rest, hrest ▸ .here rest⟩
      · obtain ⟨skipped, rest, hfirst⟩ := ih ((List.infix_cons_iff.mp h).resolve_left hprefix)
        exact ⟨c :: skipped, rest, .there hprefix hfirst⟩

namespace FirstAt

variable {skipped rest text : Text}

theorem text_eq (h : FirstAt part skipped rest text) : text = skipped ++ (part ++ rest) := by
  induction h with
  | here rest => rfl
  | there _ _ ih => rw [ih, List.cons_append]

theorem replace_eq (h : FirstAt part skipped rest text) (hpart : part ≠ []) (new : Text) :
    replace part new text = skipped ++ (new ++ replace part new rest) := by
  induction h with
  | here rest => exact replace_append hpart new rest
  | there hprefix _ ih => rw [replace_cons hprefix, ih, List.cons_append]

end FirstAt

theorem replace_of_not_infix {text : Text} (h : ¬ part <:+: text) (new : Text) :
    replace part new text = text := by
  induction text with
  | nil => exact replace_nil part new
  | cons c text ih =>
      rw [replace_cons (fun hprefix => h hprefix.isInfix),
        ih (fun hinfix => h (List.infix_cons hinfix))]

end Clippings.Text
