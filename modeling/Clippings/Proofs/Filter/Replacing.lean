import Clippings.Filter.Builtin
import Clippings.Proofs.Pattern.Matching
import Clippings.Proofs.Pattern.Plain

namespace Clippings

namespace Pattern

theorem expand_cons {c : CodePoint} (hc : c ≠ '$') (sources : Sources) (rest : Text) :
    expand sources (c :: rest) = c :: expand sources rest := by
  cases rest with
  | nil => rfl
  | cons d rest => rw [expand] <;> simp [hc]

theorem expand_doubled (sources : Sources) (text : Text) :
    expand sources (Text.replace [.char '$'] [.char '$', .char '$'] text) = text := by
  induction text with
  | nil => rfl
  | cons c rest ih =>
      by_cases hc : c = '$'
      · subst hc
        have hreplace := Text.replace_append (List.cons_ne_nil (.char '$') [])
          [.char '$', .char '$'] rest
        rw [List.singleton_append] at hreplace
        rw [hreplace]
        exact congrArg (.char '$' :: ·) ih
      · have hprefix : ¬ [.char '$'] <+: c :: rest := fun h =>
          hc (List.cons_prefix_cons.mp h).1.symm
        rw [Text.replace_cons hprefix, expand_cons hc, ih]

theorem replaceWith_plain {part : Text} (hpart : part ≠ []) (new text : Text) :
    replaceWith (plain part) (Text.replace [.char '$'] [.char '$', .char '$'] new) text =
      Text.replace part new text := by
  have hfuel : (Place.start text).after.length < 2 * text.length + 2 := by
    show text.length < _
    omega
  exact replaceFrom_plain hpart (fun _ => expand_doubled _ new) hfuel true

theorem replaceWith_whole (pattern : Pattern) (text : Text) :
    replaceWith pattern "$&" text = text := by
  have hexpand : (fun found : Match => expand (found.sources pattern) "$&") = Match.text :=
    funext fun found => List.append_nil found.text
  have hreplaces := replaces_replaceAll pattern Match.text text
  rw [replaceWith, hexpand]
  exact hreplaces.eq_after

end Pattern

namespace Filter

variable {runtime : Runtime}

/-- With a search text that is not empty and has no special characters, and with every dollar sign
of the new text doubled, the filter replaces the leftmost disjoint occurrences in the text of a
value by the new text. -/
theorem run_replace_plain (value : Value) (search new : Text) (hsearch : search ≠ [])
    (hplain : Pattern.IsPlain search) :
    (replace runtime).run value [search, Text.replace [.char '$'] [.char '$', .char '$'] new] =
      (do return .text (Text.replace search new (← value.displayed runtime))) := by
  show replaceMatches runtime value
    [search, Text.replace [.char '$'] [.char '$', .char '$'] new] = _
  simp only [replaceMatches, List.head?_cons, Option.getD_some, List.isEmpty_iff, if_neg hsearch,
    Pattern.parse_plain runtime hplain, List.drop_succ_cons, List.drop_zero,
    Pattern.replaceWith_plain hsearch]

/-- Occurrences that overlap and a new text that looks like references: of the value -1212121, the
first `121` is replaced, and after it only the one that begins behind it. -/
theorem run_replace_plain_overlapping :
    (replace {}).run (.int (-1212121)) ["121", "$$1\\$$&$$$$"] =
      .ok (.text "-$1\\$&$$2$1\\$&$$") :=
  (run_replace_plain (.int (-1212121)) "121" "$1\\$&$$" (by decide) (by decide)).trans rfl

/-- With any search text that is a pattern, the filter that replaces every match by itself gives the
text of a value. -/
theorem run_replace_whole (value : Value) {search : Text}
    (hpattern : (Pattern.parse runtime search).isOk = true) :
    (replace runtime).run value [search, "$&"] = (do return .text (← value.displayed runtime)) := by
  show replaceMatches runtime value [search, "$&"] = _
  by_cases hsearch : search = []
  · simp only [replaceMatches, hsearch, List.head?_cons, Option.getD_some, List.isEmpty_nil,
  if_true]
  · cases hparse : Pattern.parse runtime search with
    | error e =>
        rw [hparse] at hpattern
        cases hpattern
    | ok pattern =>
        simp only [replaceMatches, List.head?_cons, Option.getD_some, List.isEmpty_iff,
          if_neg hsearch, hparse, List.drop_succ_cons, List.drop_zero, Pattern.replaceWith_whole]

/-- Empty matches at the starts of lines and behind every `b`, perhaps with another `b`, and pairs
of letters that are alike but for their case. -/
theorem run_replace_whole_backreference :
    (Pattern.parse {} "(?m)^|(?<=(b))\\1?|(?i:(.)\\2+?)|\\b").isOk = true ∧
      (replace {}).run (.list [.text "aAb\nbb", .null, .int 7])
          ["(?m)^|(?<=(b))\\1?|(?i:(.)\\2+?)|\\b", "$&"] =
        .ok (.text "aAb\nbb, , 7") := by
  have hpattern : (Pattern.parse {} "(?m)^|(?<=(b))\\1?|(?i:(.)\\2+?)|\\b").isOk = true := by
    decide +kernel
  exact ⟨hpattern, (run_replace_whole (.list [.text "aAb\nbb", .null, .int 7]) hpattern).trans rfl⟩

end Filter

end Clippings
