import Clippings.Proofs.Expression.Pieces
import Clippings.Proofs.Filter.Chain
import Clippings.Proofs.Template.Rendering

namespace Clippings

theorem Expression.parse_append_bar {body : Text} (hpiece : (Scan.split Scan.bars body).1 ≠ [])
    (hbalanced : (Scan.split Scan.bars body).2.isBalanced = true) (more : Text) :
    parse (body ++ .char '|' :: more) =
      { variableName := (parse body).variableName
        filters := (parse body).filters ++
          (Scan.split Scan.bars more).1.map FilterCall.parse } := by
  have hsplit : Scan.split Scan.bars (body ++ .char '|' :: more) =
      ((Scan.split Scan.bars body).1 ++ (Scan.split Scan.bars more).1,
        (Scan.split Scan.bars more).2) :=
    Scan.split_append_separator (ScanState.eq_of_isBalanced hbalanced) rfl (by decide) more
  rw [parse, hsplit, parse]
  cases hpieces : (Scan.split Scan.bars body).1 with
  | nil => exact absurd hpieces hpiece
  | cons variableName segments => simp

namespace Engine

/-- A body that leaves nothing open can be continued behind a bar, whatever is written there: the
value is the one of the body with the further filters applied to it from left to right, and their
warnings come behind those of the body. If the body has no value, nor has the longer one. -/
theorem evaluate_append_bar {engine other : Engine} (hdialect : other.dialect = engine.dialect)
    {body : Text} (hpiece : (Scan.split Scan.bars body).1 ≠ [])
    (hbalanced : (Scan.split Scan.bars body).2.isBalanced = true) (more : Text) (context : Value) :
    (other.evaluate (body ++ .char '|' :: more) context).1 =
      (engine.evaluate body context).1.map fun outcome =>
        ((Scan.split Scan.bars more).1.map FilterCall.parse).foldl engine.dialect.filters.extend
          outcome := by
  rw [evaluate_fst, evaluate_fst, hdialect, Expression.parse_append_bar hpiece hbalanced]
  simp only [Dialect.evaluate]
  cases resolveIn engine.dialect.places (Expression.parse body).variableName context with
  | error failure => rfl
  | ok value =>
      exact congrArg Except.ok (engine.dialect.filters.applyAll_append _ _ value)

theorem evaluate_append_bar_open_quote :
    (Scan.split Scan.bars "a|trim").1 ≠ [] ∧
      (Scan.split Scan.bars "a|trim").2.isBalanced = true ∧
      ((({} : Engine).evaluate "a|trim" (.map [(.text "a", .text " b ")])).2.evaluate
        (("a|trim" : Text) ++ .char '|' :: ("x||first:1|wikilink:\"c|d" : Text))
        (.map [(.text "a", .text " b ")])).1 =
        .ok (.text "[[b|\"c|d]]",
          [.unknownFilter "x", .failedFilter "first" (.argumentCount "first" 1 1 2)]) := by
  have hdialect : (({} : Engine).evaluate "a|trim" (.map [(.text "a", .text " b ")])).2.dialect =
      ({} : Engine).dialect := rfl
  have hvalue : (({} : Engine).evaluate "a|trim" (.map [(.text "a", .text " b ")])).1 =
      .ok (.text "b", []) := rfl
  have hcalls : (Scan.split Scan.bars "x||first:1|wikilink:\"c|d").1.map FilterCall.parse =
      [{ name := "x" }, { name := "first", args := ["1"] },
        { name := "wikilink", args := ["\"c|d"] }] := by decide
  refine ⟨by decide, by decide, ?_⟩
  rw [evaluate_append_bar hdialect (by decide) (by decide), hvalue, hcalls]
  rfl

theorem evaluateInto_fst (body : Text) (context : Value) (log : Option (List Warning))
    (engine : Engine) :
    (engine.evaluateInto body context log).1 =
      (engine.evaluate body context).1.map fun outcome =>
        (outcome.1, log.map (· ++ outcome.2)) := by
  rw [evaluate_fst]
  simp only [evaluateInto, parse_fst, parse_dialect, Dialect.evaluate, FilterTable.applyAllInto_eq]
  cases resolveIn engine.dialect.places (Expression.parse body).variableName context <;> rfl

/-- Calls that cannot be applied to the value that reaches them, since their filter is unknown or
fails, are passed over: the value is the one of the other calls alone, which are applied without a
warning. Each call that is passed over adds one warning to a list, in the order of the chain, and
the value is the same if there is no list. -/
theorem evaluateInto_skips (table : FilterTable) (calls : List FilterCall) (value : Value)
    (log : Option (List Warning)) :
    let result := table.applyAll (table.kept calls value) value
    let warnings := table.obstacles calls value
    result.2 = [] ∧
      (table.kept calls value).length + warnings.length = calls.length ∧
      table.applyAllInto calls value log = (result.1, log.map (· ++ warnings)) ∧
      ∀ (engine : Engine) (body : Text) (context : Value), engine.dialect.filters = table →
        (Expression.parse body).filters = calls →
        resolveIn engine.dialect.places (Expression.parse body).variableName context = .ok value →
        (engine.evaluateInto body context log).1 = .ok (result.1, log.map (· ++ warnings)) := by
  intro result warnings
  have hresult : result = ((table.applyAll calls value).1, []) := table.applyAll_kept calls value
  have hwarnings : warnings = (table.applyAll calls value).2 :=
    (table.applyAll_snd calls value).symm
  have hinto : table.applyAllInto calls value log = (result.1, log.map (· ++ warnings)) := by
    rw [table.applyAllInto_eq, hresult, hwarnings]
  refine ⟨by rw [hresult], table.length_kept_add_length_obstacles calls value, hinto, ?_⟩
  rintro engine body context rfl rfl hvalue
  rw [evaluateInto_fst, evaluate_fst, Dialect.evaluate, hvalue, hresult, hwarnings]
  rfl

theorem evaluateInto_skips_value_dependent :
    let twice : Filter :=
      { label := "twice"
        action := fun value _ =>
          match value with
          | .text s => .ok (.text (s ++ s))
          | _ => .error (.custom .custom "no text") }
    let engine : Engine := { dialect := { filters := [("first", .first), ("twice", twice)] } }
    let context : Value := .map [(.text "a", .list [.text "b", .text "c"])]
    (∀ log, (engine.evaluateInto "a|twice|x|first|twice|first:1" context log).1 =
      .ok (.text "bb", log.map (· ++ [.failedFilter "twice" (.custom .custom "no text"),
        .unknownFilter "x", .failedFilter "first" (.argumentCount "first" 1 1 2)]))) ∧
      engine.dialect.filters.kept (Expression.parse "a|twice|x|first|twice|first:1").filters
        (.list [.text "b", .text "c"]) = [{ name := "first" }, { name := "twice" }] := by
  intro twice engine context
  have hcalls : (Expression.parse "a|twice|x|first|twice|first:1").filters =
      [{ name := "twice" }, { name := "x" }, { name := "first" }, { name := "twice" },
        { name := "first", args := ["1"] }] := by decide
  have hvalue : resolveIn engine.dialect.places
      (Expression.parse "a|twice|x|first|twice|first:1").variableName context =
      .ok (.list [.text "b", .text "c"]) := rfl
  refine ⟨fun log => ?_, by rw [hcalls]; rfl⟩
  exact (evaluateInto_skips engine.dialect.filters _ _ log).2.2.2 engine _ context rfl hcalls hvalue

end Engine

end Clippings
