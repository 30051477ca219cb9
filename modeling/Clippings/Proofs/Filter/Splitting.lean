import Clippings.Filter.Builtin
import Clippings.Proofs.Text.Cutting

namespace Clippings

namespace Text

theorem splitAt_singleton (c : CodePoint) (text : Text) : splitAt [c] text = splitOn c text := by
  induction text with
  | nil => rfl
  | cons d rest ih =>
      rw [splitAt] at ih
      rw [splitAt, splitAtFrom, splitOn, List.length_singleton, Nat.sub_self, ih]
      by_cases hd : d = c
      · simp [hd]
      · simp [hd, Ne.symm hd]

theorem join_nil_map_singleton (text : Text) : join [] (text.map ([·])) = text := by
  induction text with
  | nil => rfl
  | cons c rest ih =>
      cases rest with
      | nil => rfl
      | cons d rest => exact congrArg (c :: ·) ih

end Text

theorem Value.mapM_displayed_texts (runtime : Runtime) (texts : List Text) :
    (texts.map .text).mapM (Value.displayed runtime) = .ok texts := by
  induction texts with
  | nil => rfl
  | cons text rest ih =>
      rw [List.map_cons, List.mapM_cons, ih]
      rfl

namespace Filter

variable {runtime : Runtime}

theorem join_pieces (separator text : Text) :
    Text.join separator (pieces separator text) = text := by
  cases separator with
  | nil => exact Text.join_nil_map_singleton text
  | cons c rest => exact Text.join_splitAt (c :: rest) text (List.cons_ne_nil c rest)

theorem pieces_join {c : CodePoint} {texts : List Text} (hne : texts ≠ [])
    (h : ∀ text ∈ texts, c ∉ text) : pieces [c] (Text.join [c] texts) = texts :=
  (Text.splitAt_singleton c _).trans (Text.splitOn_join hne h)

theorem run_join_texts (texts : List Text) (separator : Text) :
    (join runtime).run (.list (texts.map .text)) [separator] =
      .ok (.text (Text.join separator texts)) := by
  show joinItems runtime (.list (texts.map .text)) [separator] = _
  simp only [joinItems, Value.items?, Value.mapM_displayed_texts]
  rfl

theorem run_split (value : Value) (separator : Text) :
    (split runtime).run value [separator] =
      (do return .list ((pieces separator (← value.displayed runtime)).map .text)) := rfl

/-- Joining what a value was split into gives the text of the value, for every separator. Splitting
what texts were joined into gives the texts, if there is one at least and none of them holds the
character that separates them. -/
theorem run_join_split (value : Value) (separator : Text) :
    (do (join runtime).run (← (split runtime).run value [separator]) [separator]) =
        (do return .text (← value.displayed runtime)) ∧
      ∀ {c : CodePoint} {texts : List Text}, texts ≠ [] → (∀ text ∈ texts, c ∉ text) →
        (do (split runtime).run (← (join runtime).run (.list (texts.map .text)) [[c]]) [[c]]) =
          .ok (.list (texts.map .text)) := by
  constructor
  · rw [run_split]
    cases hdisplayed : value.displayed runtime with
    | error failure => rfl
    | ok text =>
        show (join runtime).run (.list ((pieces separator text).map .text)) [separator] = _
        rw [run_join_texts, join_pieces]
        rfl
  · intro c texts hne h
    rw [run_join_texts]
    show (split runtime).run (.text (Text.join [c] texts)) [[c]] = _
    rw [run_split]
    show Except.ok (Value.list ((pieces [c] (Text.join [c] texts)).map .text)) = _
    rw [pieces_join hne h]

theorem run_join_split_overlapping :
    (do (join {}).run (← (split {}).run (.list [.text "aaab", .text "aa"]) ["aa"]) ["aa"]) =
        .ok (.text "aaab, aa") ∧
      ((["", "b, c", ""] : List Text) ≠ [] ∧
        (∀ text ∈ (["", "b, c", ""] : List Text), .char 'a' ∉ text) ∧
        (do
            let joined ← (join {}).run (.list ((["", "b, c", ""] : List Text).map .text)) ["a"]
            (split {}).run joined ["a"]) =
          .ok (.list ((["", "b, c", ""] : List Text).map .text))) := by
  have hfree : ∀ text ∈ (["", "b, c", ""] : List Text), .char 'a' ∉ text := by decide
  obtain ⟨hjoined, hsplit⟩ := run_join_split (.list [.text "aaab", .text "aa"]) "aa"
  exact ⟨hjoined.trans rfl, by decide, hfree, hsplit (by decide) hfree⟩

end Filter

end Clippings
