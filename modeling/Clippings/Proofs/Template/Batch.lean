import Clippings.Proofs.Expression.Pieces
import Clippings.Proofs.Outcome
import Clippings.Proofs.Template.Memory
import Clippings.Proofs.Variable.Path
import Clippings.Template.Batch

namespace Clippings

namespace BatchResult

structure Reports (result : BatchResult) (outcomes : List (Except Failure Rendering)) : Prop where
  length_outputs : result.outputs.length = outcomes.length
  count : result.successCount + result.errorCount = outcomes.length
  output_of_ok : ∀ (i : Nat) (rendering : Rendering), outcomes[i]? = some (.ok rendering) →
    result.outputs[i]? = some rendering.output
  output_of_error : ∀ (i : Nat) (failure : Failure), outcomes[i]? = some (.error failure) →
    result.outputs[i]? = some []
  mem_errors_iff : ∀ (i : Nat) (failure : Failure),
    (i, failure) ∈ result.errors ↔ outcomes[i]? = some (.error failure)
  errors_increasing : (result.errors.map (·.1)).Pairwise (· < ·)
  warnings_of_ok : ∀ (i : Nat) (rendering : Rendering), outcomes[i]? = some (.ok rendering) →
    (result.warnings.filter (·.1 = i)).map (·.2) = rendering.warnings
  ok_of_mem_warnings : ∀ (i : Nat) (warning : Warning), (i, warning) ∈ result.warnings →
    ∃ rendering : Rendering, outcomes[i]? = some (.ok rendering)
  warnings_increasing : (result.warnings.map (·.1)).Pairwise (· ≤ ·)

def outputOf : Except Failure Rendering → Text
  | .ok rendering => rendering.output
  | .error _ => []

def warningsOf : Except Failure Rendering → List Warning
  | .ok rendering => rendering.warnings
  | .error _ => []

theorem pairwise_zipIdx {α : Type} (items : List α) :
    items.zipIdx.Pairwise fun a b => a.2 < b.2 := by
  apply List.pairwise_map.mp
  change (items.zipIdx.map Prod.snd).Pairwise (· < ·)
  rw [List.zipIdx_map_snd]
  exact List.pairwise_lt_range'

theorem mem_errors_iff {result : BatchResult} {i : Nat} {failure : Failure} :
    (i, failure) ∈ result.errors ↔ result.outcomes[i]? = some (.error failure) := by
  rw [errors, List.mem_filterMap]
  constructor
  · rintro ⟨⟨outcome, index⟩, hmem, houtcome⟩
    cases outcome with
    | ok rendering => cases houtcome
    | error other =>
        obtain ⟨rfl, rfl⟩ := Prod.mk.inj (Option.some.inj houtcome)
        exact List.mk_mem_zipIdx_iff_getElem?.mp hmem
  · intro h
    exact ⟨(.error failure, i), List.mk_mem_zipIdx_iff_getElem?.mpr h, rfl⟩

theorem errors_increasing (result : BatchResult) :
    (result.errors.map (·.1)).Pairwise (· < ·) := by
  rw [List.pairwise_map]
  apply (pairwise_zipIdx result.outcomes).filterMap
  rintro ⟨outcome, i⟩ ⟨other, j⟩ hlt a ha b hb
  cases outcome with
  | ok rendering => cases ha
  | error failure =>
      cases other with
      | ok rendering => cases hb
      | error failure =>
          obtain rfl := Option.some.inj ha
          obtain rfl := Option.some.inj hb
          exact hlt

theorem successCount_add_errorCount (result : BatchResult) :
    result.successCount + result.errorCount = result.outcomes.length := by
  apply Nat.sub_add_cancel
  calc
    result.errors.length ≤ result.outcomes.zipIdx.length := List.length_filterMap_le _ _
    _ = result.total := List.length_zipIdx

theorem warnings_eq_flatMap (result : BatchResult) :
    result.warnings = result.outcomes.zipIdx.flatMap fun outcome =>
      (warningsOf outcome.1).map (outcome.2, ·) := by
  rw [warnings]
  congr 1
  funext outcome
  obtain ⟨outcome, i⟩ := outcome
  cases outcome <;> rfl

theorem warnings_increasing (result : BatchResult) :
    (result.warnings.map (·.1)).Pairwise (· ≤ ·) := by
  rw [warnings_eq_flatMap, List.pairwise_map, List.pairwise_flatMap]
  constructor
  · intro outcome _
    rw [List.pairwise_map]
    exact List.pairwise_of_forall fun _ _ => Nat.le_refl outcome.2
  · apply (pairwise_zipIdx result.outcomes).imp
    rintro ⟨outcome, i⟩ ⟨other, j⟩ hlt a ha b hb
    obtain ⟨_, -, rfl⟩ := List.mem_map.mp ha
    obtain ⟨_, -, rfl⟩ := List.mem_map.mp hb
    exact Nat.le_of_lt hlt

theorem filter_tagged_eq_nil {α β : Type} {f : α → List β} {items : List (α × Nat)} {tag : Nat}
    (h : ∀ item ∈ items, item.2 ≠ tag) :
    (items.flatMap fun item => (f item.1).map (item.2, ·)).filter (·.1 = tag) = [] := by
  rw [List.filter_eq_nil_iff]
  intro tagged htagged
  obtain ⟨item, hitem, htagged⟩ := List.mem_flatMap.mp htagged
  obtain ⟨b, -, rfl⟩ := List.mem_map.mp htagged
  simpa using h item hitem

theorem warnings_at (result : BatchResult) {i : Nat} {outcome : Except Failure Rendering}
    (h : result.outcomes[i]? = some outcome) :
    (result.warnings.filter (·.1 = i)).map (·.2) = warningsOf outcome := by
  obtain ⟨hi, houtcome⟩ := List.getElem?_eq_some_iff.mp h
  have hsplit := List.take_append_drop i result.outcomes
  rw [List.drop_eq_getElem_cons hi, houtcome] at hsplit
  have hlength : (result.outcomes.take i).length = i := List.length_take_of_le (Nat.le_of_lt hi)
  have hbefore : ∀ item ∈ (result.outcomes.take i).zipIdx, item.2 ≠ i := by
    intro item hitem
    have hlt := (List.mem_zipIdx hitem).2.1
    omega
  have hafter : ∀ item ∈ (result.outcomes.drop (i + 1)).zipIdx (i + 1), item.2 ≠ i := by
    intro item hitem
    have hle := (List.mem_zipIdx hitem).1
    omega
  rw [warnings_eq_flatMap, ← hsplit, List.zipIdx_append, List.zipIdx_cons, hlength, Nat.zero_add]
  simp only [List.flatMap_append, List.flatMap_cons, List.filter_append,
    filter_tagged_eq_nil hbefore, filter_tagged_eq_nil hafter]
  simp [List.filter_map, Function.comp_def]

theorem exists_of_mem_warnings {result : BatchResult} {i : Nat} {warning : Warning}
    (h : (i, warning) ∈ result.warnings) :
    ∃ rendering : Rendering, result.outcomes[i]? = some (.ok rendering) := by
  rw [warnings_eq_flatMap] at h
  obtain ⟨⟨outcome, index⟩, hmem, h⟩ := List.mem_flatMap.mp h
  obtain ⟨tagged, htagged, h⟩ := List.mem_map.mp h
  obtain ⟨rfl, rfl⟩ := Prod.mk.inj h
  cases outcome with
  | ok rendering => exact ⟨rendering, List.mk_mem_zipIdx_iff_getElem?.mp hmem⟩
  | error failure => cases htagged

theorem getElem?_outputs {result : BatchResult} {i : Nat} {outcome : Except Failure Rendering}
    (h : result.outcomes[i]? = some outcome) : result.outputs[i]? = some (outputOf outcome) := by
  rw [outputs, List.getElem?_map, h]
  cases outcome <;> rfl

theorem reports (result : BatchResult) : result.Reports result.outcomes where
  length_outputs := List.length_map _
  count := result.successCount_add_errorCount
  output_of_ok _ _ h := getElem?_outputs h
  output_of_error _ _ h := getElem?_outputs h
  mem_errors_iff _ _ := mem_errors_iff
  errors_increasing := result.errors_increasing
  warnings_of_ok _ _ h := result.warnings_at h
  ok_of_mem_warnings _ _ h := exists_of_mem_warnings h
  warnings_increasing := result.warnings_increasing

def Keeps (outcome : Except Failure Rendering) : Prop :=
  ∀ failure, outcome = .error failure → failure.kind = .type

def collect : List (Except Failure Rendering) → Except Failure (List (Except Failure Rendering))
  | [] => .ok []
  | .error failure :: rest =>
    if failure.kind = .type then (collect rest).map (.error failure :: ·) else .error failure
  | .ok rendering :: rest => (collect rest).map (.ok rendering :: ·)

theorem collect_of_keeps {outcomes : List (Except Failure Rendering)}
    (h : ∀ outcome ∈ outcomes, Keeps outcome) : collect outcomes = .ok outcomes := by
  induction outcomes with
  | nil => rfl
  | cons outcome rest ih =>
      obtain ⟨hfirst, hrest⟩ := List.forall_mem_cons.mp h
      cases outcome with
      | ok rendering => rw [collect, ih hrest]; rfl
      | error failure => rw [collect, if_pos (hfirst failure rfl), ih hrest]; rfl

theorem keeps_of_collect {outcomes kept : List (Except Failure Rendering)}
    (h : collect outcomes = .ok kept) : ∀ outcome ∈ outcomes, Keeps outcome := by
  induction outcomes generalizing kept with
  | nil => simp
  | cons outcome rest ih =>
      cases outcome with
      | ok rendering =>
          obtain ⟨others, hothers, -⟩ := Except.exists_of_map_eq_ok h
          refine List.forall_mem_cons.mpr ⟨?_, ih hothers⟩
          intro failure hfailure
          cases hfailure
      | error failure =>
          rw [collect] at h
          split at h
          · next hkind =>
            obtain ⟨others, hothers, -⟩ := Except.exists_of_map_eq_ok h
            refine List.forall_mem_cons.mpr ⟨?_, ih hothers⟩
            intro other hother
            rwa [← Except.error.inj hother]
          · cases h

end BatchResult

namespace Engine

open BatchResult

theorem renderAll_fst (template : Value) (contexts : List Value) {engine other : Engine}
    (h : engine.dialect = other.dialect) :
    (engine.renderAll template contexts).1 =
      collect (contexts.map fun context => (other.render template context).1) := by
  induction contexts generalizing engine with
  | nil => rfl
  | cons context rest ih =>
      have hnext := ih ((render_dialect template context engine).trans h)
      rw [List.map_cons, ← render_fst_congr h template context, renderAll]
      rcases hrender : engine.render template context with ⟨outcome, next⟩
      rw [hrender] at hnext
      cases outcome with
      | ok rendering => simp only [collect, hnext]
      | error failure =>
          simp only [collect]
          split
          · simp only [hnext]
          · rfl

theorem renderBatch_fst (options : BatchOptions) (template : Value) (contexts : List Value)
    (engine : Engine) :
    (engine.renderBatch options template (.list contexts)).1 =
      if options.parallel = true ∧ options.parallelThreshold ≤ contexts.length ∧
          options.maxWorkers ≤ 0 then .error .noWorkers
      else (collect (contexts.map fun context => (engine.render template context).1)).map
        fun outcomes =>
          { outcomes
            parallel := options.parallel && options.parallelThreshold ≤ contexts.length } := by
  rw [← renderAll_fst template contexts rfl]
  simp only [renderBatch, Value.contexts, Bool.and_eq_true, decide_eq_true_eq, and_assoc]
  split <;> rfl

/-- A batch has a result if there is a worker for it and every failure is one of kind, and then the
result has the outcomes that the contexts have on their own. -/
theorem renderBatch_eq_ok_iff {options : BatchOptions} {template : Value} {contexts : List Value}
    {engine : Engine} {result : BatchResult} :
    (engine.renderBatch options template (.list contexts)).1 = .ok result ↔
      (options.parallel = true → options.parallelThreshold ≤ contexts.length →
        0 < options.maxWorkers) ∧
      (∀ context ∈ contexts, Keeps (engine.render template context).1) ∧
      result = { outcomes := contexts.map fun context => (engine.render template context).1
                 parallel := options.parallel && options.parallelThreshold ≤ contexts.length } := by
  rw [renderBatch_fst]
  constructor
  · intro h
    split at h
    · cases h
    · next hworkers =>
      obtain ⟨kept, hkept, -⟩ := Except.exists_of_map_eq_ok h
      have hkeeps := keeps_of_collect hkept
      rw [collect_of_keeps hkeeps] at h
      refine ⟨?_, List.forall_mem_map.mp hkeeps, (Except.ok.inj h).symm⟩
      intro hparallel hlong
      by_contra hnone
      exact hworkers ⟨hparallel, hlong, by omega⟩
  · rintro ⟨hworkers, hkeeps, rfl⟩
    have hnot : ¬ (options.parallel = true ∧ options.parallelThreshold ≤ contexts.length ∧
        options.maxWorkers ≤ 0) := by
      rintro ⟨hparallel, hlong, hnone⟩
      have hsome := hworkers hparallel hlong
      omega
    rw [if_neg hnot, collect_of_keeps (List.forall_mem_map.mpr hkeeps)]
    rfl

/-- A batch has a result exactly if, besides having a worker, no context fails other than by its
kind. Then every context that can be rendered alone has its output there, and every other one an
empty output and the message of its failure. -/
theorem renderBatch_isolates (options : BatchOptions) (template : Text) (contexts : List Value)
    (engine : Engine) :
    ((∃ result, (engine.renderBatch options (.text template) (.list contexts)).1 = .ok result) ↔
      (options.parallel = true → options.parallelThreshold ≤ contexts.length →
        0 < options.maxWorkers) ∧
      ∀ context ∈ contexts, ∀ failure,
        (engine.render (.text template) context).1 = .error failure → failure.kind = .type) ∧
    ∀ result, (engine.renderBatch options (.text template) (.list contexts)).1 = .ok result →
      ∀ i context, contexts[i]? = some context →
        (∀ rendering, (engine.render (.text template) context).1 = .ok rendering →
          result.outputs[i]? = some rendering.output) ∧
        ∀ failure, (engine.render (.text template) context).1 = .error failure →
          result.outputs[i]? = some [] ∧
            (i, failure.message) ∈ result.errors.map fun error => (error.1, error.2.message) := by
  constructor
  · constructor
    · rintro ⟨result, h⟩
      obtain ⟨hworkers, hkeeps, -⟩ := renderBatch_eq_ok_iff.mp h
      exact ⟨hworkers, hkeeps⟩
    · rintro ⟨hworkers, hkeeps⟩
      exact ⟨_, renderBatch_eq_ok_iff.mpr ⟨hworkers, hkeeps, rfl⟩⟩
  · intro result h i context hcontext
    obtain ⟨-, -, hresult⟩ := renderBatch_eq_ok_iff.mp h
    have houtcome : result.outcomes[i]? = some (engine.render (.text template) context).1 := by
      rw [hresult, List.getElem?_map, hcontext]
      rfl
    constructor
    · intro rendering hrendering
      rw [hrendering] at houtcome
      exact result.reports.output_of_ok i rendering houtcome
    · intro failure hfailure
      rw [hfailure] at houtcome
      refine ⟨result.reports.output_of_error i failure houtcome, List.mem_map.mpr ?_⟩
      exact ⟨(i, failure), (result.reports.mem_errors_iff i failure).mpr houtcome, rfl⟩

theorem renderBatch_isolates_other_kind :
    ∃ result, (({} : Engine).renderBatch {} (.text "\x7b\x7ba\x7d\x7d")
        (.list [.map [(.text "a", .text "ok")], .text "not a mapping"])).1 = .ok result ∧
      result.outputs[0]? = some ("ok" : Text) ∧ result.outputs[1]? = some [] ∧
      (1, ("Context must be a mapping, got str" : Text)) ∈
        result.errors.map fun error => (error.1, error.2.message) := by
  have h := renderBatch_isolates {} "\x7b\x7ba\x7d\x7d"
    [.map [(.text "a", .text "ok")], .text "not a mapping"] {}
  refine ⟨_, rfl, ?_, ?_⟩
  · exact (h.2 _ rfl 0 _ rfl).1 _ rfl
  · exact (h.2 _ rfl 1 _ rfl).2 _ rfl

def longVariable : Text :=
  [CodePoint.char 'a'] ++ CodePoint.char '.' :: List.replicate (integerDigitLimit + 1) '1'

theorem eq_of_mem_longVariable {c : CodePoint} (h : c ∈ longVariable) :
    c = 'a' ∨ c = '.' ∨ c = '1' := by
  simp only [longVariable, List.cons_append, List.nil_append, List.mem_cons] at h
  exact h.imp_right (·.imp_right List.eq_of_mem_replicate)

theorem render_longVariable (entries : Entries) :
    (({} : Engine).render (.text (Template.brace longVariable)) (.map entries)).1 = (do
      let value ← resolvePath longVariable (.map entries)
      return { output := ← value.displayed {} }) := by
  have hne : longVariable ≠ [] := by simp [longVariable]
  have hbody : Template.IsBody longVariable := by
    refine ⟨hne, fun hc => ?_⟩
    have hchar := eq_of_mem_longVariable hc
    revert hchar
    decide
  have hstrip : Text.strip longVariable = longVariable := by
    apply Text.strip_eq_self_of_ends
    · intro c hc
      rcases eq_of_mem_longVariable (List.mem_of_mem_head? hc) with rfl | rfl | rfl <;> decide
    · intro c hc
      rcases eq_of_mem_longVariable (List.mem_of_mem_getLast? hc) with rfl | rfl | rfl <;> decide
  have hparse : Expression.parse longVariable = { variableName := longVariable } := by
    apply Expression.parse_of_plain _ hstrip hne
    intro c hc
    rcases eq_of_mem_longVariable hc with rfl | rfl | rfl <;> decide
  have hplace : ∀ digits : Text, resolveIn VariablePlace.builtin (.char 'a' :: .char '.' :: digits)
    (.map entries) =
      resolvePath (.char 'a' :: .char '.' :: digits) (.map entries) := fun _ => rfl
  have hresolve : resolveIn VariablePlace.builtin longVariable (.map entries) =
      resolvePath longVariable (.map entries) := hplace _
  rw [render_fst, Dialect.renderText, Template.ofText_brace hbody]
  simp only [Dialect.renderHoles, hstrip, hparse, Dialect.renderExpression, Dialect.evaluate,
    hresolve]
  cases resolvePath longVariable (.map entries) with
  | error failure => rfl
  | ok value =>
      simp only [bind, Except.bind, pure, Except.pure, FilterTable.applyAll]
      cases value.displayed {} with
      | error failure => rfl
      | ok text => simp [Rendering.append]

/-- A number that is too long ends the batch where it is looked up in a list, and the context before
it has no output then. -/
theorem renderBatch_of_long_number :
    let template : Value := .text (Template.brace longVariable)
    let first : Value := .map []
    let second : Value := .map [(.text "a", .list [.int 1])]
    (({} : Engine).render template first).1 = .ok {} ∧
      (({} : Engine).render template second).1 =
        .error (.longNumber (integerDigitLimit + 1)) ∧
      (({} : Engine).renderBatch {} template (.list [first, second])).1 =
        .error (.longNumber (integerDigitLimit + 1)) := by
  intro template first second
  have hpoint : CodePoint.char '.' ∉
      [CodePoint.char 'a'] ++ List.replicate (integerDigitLimit + 1) (.char '1') := by simp
  have hbracket : CodePoint.char '[' ∉
      [CodePoint.char 'a'] ++ List.replicate (integerDigitLimit + 1) (.char '1') := by simp
  have hitems : (Value.list [.int 1]).items? = some [.int 1] := rfl
  have hfirst : (({} : Engine).render template first).1 = .ok {} := by
    rw [render_longVariable, longVariable, resolvePath_pair hpoint hbracket]
    rfl
  have hsecond : (({} : Engine).render template second).1 =
      .error (.longNumber (integerDigitLimit + 1)) := by
    rw [render_longVariable, longVariable,
      resolvePath_of_long hpoint hbracket rfl hitems]
    · simp only [List.length_replicate]
      rfl
    · intro c hc
      rw [List.eq_of_mem_replicate hc]
      decide
    · simp
  refine ⟨hfirst, hsecond, ?_⟩
  rw [renderBatch_fst, if_neg (by decide)]
  simp only [List.map_cons, hfirst, hsecond, collect]
  rfl

end Engine

end Clippings
