import Clippings.Filter.Builtin
import Mathlib.Data.List.Basic

namespace Clippings

namespace Text

def HasTag (text : Text) : Prop := [.char '<', .char '>'].Sublist text

/-- A text and what is left without its tags. From the left, an opening angle bracket with a closing
one behind it goes, with all up to the first closing one; any other character stays. -/
inductive LosesTags : Text → Text → Prop
  | nil : LosesTags [] []
  | keep {c : CodePoint} {rest kept : Text} :
      (c = .char '<' → .char '>' ∉ rest) → LosesTags rest kept → LosesTags (c :: rest) (c :: kept)
  | drop {inside rest kept : Text} :
      .char '>' ∉ inside → LosesTags rest kept →
        LosesTags (.char '<' :: (inside ++ .char '>' :: rest)) kept

namespace LosesTags

variable {text kept : Text}

theorem sublist (h : LosesTags text kept) : kept.Sublist text := by
  induction h with
  | nil => exact .refl []
  | keep _ _ ih => exact ih.cons_cons _
  | drop _ _ ih => exact ((ih.cons _).trans (List.sublist_append_right ..)).cons _

theorem not_hasTag (h : LosesTags text kept) : ¬ HasTag kept := by
  induction h with
  | nil => rintro ⟨⟩
  | drop _ _ ih => exact ih
  | keep hopening hrest ih =>
      intro htag
      cases htag with
      | cons _ htail => exact ih htail
      | cons_cons _ hclosing =>
          exact hopening rfl (hrest.sublist.subset (List.singleton_sublist.mp hclosing))

theorem eq_self (h : LosesTags text kept) (htagless : ¬ HasTag text) : kept = text := by
  induction h with
  | nil => rfl
  | keep _ _ ih => rw [ih fun htag => htagless (htag.cons _)]
  | drop =>
      refine absurd ?_ htagless
      exact (List.singleton_sublist.mpr (by simp)).cons_cons _

end LosesTags

theorem dropTags_inside {inside : Text} (h : .char '>' ∉ inside) (rest : Text) :
    dropTags true (inside ++ .char '>' :: rest) = dropTags false rest := by
  induction inside with
  | nil => simp [dropTags]
  | cons c inside ih =>
      obtain ⟨hc, hinside⟩ : .char '>' ≠ c ∧ .char '>' ∉ inside := by simpa using h
      rw [List.cons_append, dropTags, if_pos rfl, decide_eq_true hc.symm, ih hinside]

theorem losesTags_stripTags (text : Text) : LosesTags text (stripTags text) := by
  induction hlength : text.length using Nat.strongRecOn generalizing text with
  | ind length ih =>
      cases text with
      | nil => exact .nil
      | cons c rest =>
          rw [List.length_cons] at hlength
          rw [stripTags, dropTags, if_neg Bool.false_ne_true]
          by_cases htag : c = .char '<' ∧ .char '>' ∈ rest
          · -- The tag ends at the first closing bracket behind it.
            obtain ⟨rfl, hclosing⟩ := htag
            obtain ⟨inside, behind, rfl, hinside⟩ := List.eq_append_cons_of_mem hclosing
            rw [if_pos (by simp), dropTags_inside hinside]
            rw [List.length_append, List.length_cons] at hlength
            exact .drop hinside (ih behind.length (by omega) behind rfl)
          · rw [if_neg (by simpa using htag)]
            exact .keep (fun hc hclosing => htag ⟨hc, hclosing⟩)
              (ih rest.length (by omega) rest rfl)

theorem not_hasTag_stripTags (text : Text) : ¬ HasTag (stripTags text) :=
  (losesTags_stripTags text).not_hasTag

theorem stripTags_eq_self {text : Text} (h : ¬ HasTag text) : stripTags text = text :=
  (losesTags_stripTags text).eq_self h

end Text

namespace Filter

variable {runtime : Runtime}

theorem run_stripHtml_of_displayed {value : Value} {text : Text}
    (htext : value.displayed runtime = .ok text) :
    (stripHtml runtime).run value [] = .ok (.text (Text.stripTags text)) := by
  show onText runtime Text.stripTags value [] = _
  rw [onText, htext]
  rfl

/-- For every value with a text, the filter gives that text without its tags. There is no tag in
what it gives, so a second time it changes nothing, nor does it change a text that has no tag. -/
theorem run_stripHtml {value : Value} {text : Text} (htext : value.displayed runtime = .ok text) :
    ∃ kept, (stripHtml runtime).run value [] = .ok (.text kept) ∧ text.LosesTags kept ∧
      ¬ kept.HasTag ∧ (stripHtml runtime).run (.text kept) [] = .ok (.text kept) ∧
      (¬ text.HasTag → kept = text) := by
  have htagless := Text.not_hasTag_stripTags text
  refine ⟨Text.stripTags text, run_stripHtml_of_displayed htext, Text.losesTags_stripTags text,
    htagless, ?_, Text.stripTags_eq_self⟩
  rw [run_stripHtml_of_displayed rfl, Text.stripTags_eq_self htagless]

theorem run_stripHtml_nested :
    (Value.list [.text "a<<b>c>", .text "<scr<b>ipt> 1 < 2"]).displayed {} =
        .ok "a<<b>c>, <scr<b>ipt> 1 < 2" ∧
      (stripHtml {}).run (.list [.text "a<<b>c>", .text "<scr<b>ipt> 1 < 2"]) [] =
        .ok (.text "ac>, ipt> 1 < 2") ∧
      Text.LosesTags "a<<b>c>, <scr<b>ipt> 1 < 2" "ac>, ipt> 1 < 2" ∧
      ¬ Text.HasTag "ac>, ipt> 1 < 2" ∧
      (stripHtml {}).run (.text "ac>, ipt> 1 < 2") [] = .ok (.text "ac>, ipt> 1 < 2") := by
  have htext : (Value.list [.text "a<<b>c>", .text "<scr<b>ipt> 1 < 2"]).displayed {} =
      .ok "a<<b>c>, <scr<b>ipt> 1 < 2" := rfl
  obtain ⟨kept, hkept, hloses, htagless, hagain, -⟩ := run_stripHtml htext
  obtain rfl : ("ac>, ipt> 1 < 2" : Text) = kept :=
    Value.text.inj (Except.ok.inj (Eq.trans rfl hkept))
  exact ⟨htext, hkept, hloses, htagless, hagain⟩

end Filter

end Clippings
