import Clippings.Filter.Basic

namespace Clippings.FilterTable

variable (table : FilterTable)

/-- Applies one more filter to a value that was reached with some warnings. -/
def extend (outcome : Value × List Warning) (call : FilterCall) : Value × List Warning :=
  ((table.apply call outcome.1).1, outcome.2 ++ (table.apply call outcome.1).2)

theorem applyAll_cons (call : FilterCall) (rest : List FilterCall) (value : Value) :
    table.applyAll (call :: rest) value =
      ((table.applyAll rest (table.apply call value).1).1,
        (table.apply call value).2 ++ (table.applyAll rest (table.apply call value).1).2) := rfl

theorem foldl_extend (calls : List FilterCall) (value : Value) (warnings : List Warning) :
    calls.foldl table.extend (value, warnings) =
      ((table.applyAll calls value).1, warnings ++ (table.applyAll calls value).2) := by
  induction calls generalizing value warnings with
  | nil => simp [applyAll]
  | cons call rest ih => rw [List.foldl_cons, extend, ih, applyAll_cons, List.append_assoc]

theorem applyAll_append (calls others : List FilterCall) (value : Value) :
    table.applyAll (calls ++ others) value =
      others.foldl table.extend (table.applyAll calls value) := by
  have hempty (chain : List FilterCall) (v : Value) :
      table.applyAll chain v = chain.foldl table.extend (v, []) := by
    rw [foldl_extend, List.nil_append]
  rw [hempty, List.foldl_append, ← hempty]

def obstacle? (call : FilterCall) (value : Value) : Option Warning :=
  match table.get? call.name with
  | none => some (.unknownFilter call.name)
  | some filter =>
    match filter.run value call.args with
    | .ok _ => none
    | .error failure => some (.failedFilter call.name failure)

def reached : List FilterCall → Value → List (FilterCall × Value)
  | [], _ => []
  | call :: rest, value => (call, value) :: reached rest (table.apply call value).1

/-- A chain without the calls that cannot be applied to the values that reach them. -/
def kept (calls : List FilterCall) (value : Value) : List FilterCall :=
  ((table.reached calls value).filter fun step => (table.obstacle? step.1 step.2).isNone).map (·.1)

def obstacles (calls : List FilterCall) (value : Value) : List Warning :=
  (table.reached calls value).filterMap fun step => table.obstacle? step.1 step.2

/-- Either something keeps a call from being applied, and the value stays as it is with one warning,
or the call is applied without any. -/
theorem apply_cases (call : FilterCall) (value : Value) :
    (∃ warning, table.obstacle? call value = some warning ∧
      table.apply call value = (value, [warning])) ∨
    (table.obstacle? call value = none ∧ (table.apply call value).2 = []) := by
  unfold obstacle? apply
  cases table.get? call.name with
  | none => exact .inl ⟨_, rfl, rfl⟩
  | some filter =>
      cases hrun : filter.run value call.args with
      | error failure =>
          exact .inl ⟨.failedFilter call.name failure, by simp [hrun], by simp [hrun]⟩
      | ok result => exact .inr ⟨by simp [hrun], by simp [hrun]⟩

variable {table}

theorem reached_cons (call : FilterCall) (rest : List FilterCall) (value : Value) :
    table.reached (call :: rest) value =
      (call, value) :: table.reached rest (table.apply call value).1 := rfl

theorem kept_cons_of_obstacle {call : FilterCall} {value : Value} {warning : Warning}
    (h : table.obstacle? call value = some warning) (rest : List FilterCall) :
    table.kept (call :: rest) value = table.kept rest (table.apply call value).1 := by
  simp [kept, reached_cons, h]

theorem kept_cons_of_no_obstacle {call : FilterCall} {value : Value}
    (h : table.obstacle? call value = none) (rest : List FilterCall) :
    table.kept (call :: rest) value = call :: table.kept rest (table.apply call value).1 := by
  simp [kept, reached_cons, h]

theorem obstacles_cons (call : FilterCall) (rest : List FilterCall) (value : Value) :
    table.obstacles (call :: rest) value =
      (table.obstacle? call value).toList ++ table.obstacles rest (table.apply call value).1 := by
  rw [obstacles, reached_cons, List.filterMap_cons]
  cases table.obstacle? call value <;> rfl

variable (table)

theorem applyAll_snd (calls : List FilterCall) (value : Value) :
    (table.applyAll calls value).2 = table.obstacles calls value := by
  induction calls generalizing value with
  | nil => rfl
  | cons call rest ih =>
      rw [applyAll_cons, ih, obstacles_cons]
      rcases table.apply_cases call value with ⟨warning, hobstacle, happly⟩ | ⟨hnone, hsnd⟩
      · rw [hobstacle, happly]
        rfl
      · rw [hnone, hsnd]
        rfl

/-- The calls that are kept give the value of the whole chain, and nothing keeps them from being
applied when the others are gone. -/
theorem applyAll_kept (calls : List FilterCall) (value : Value) :
    table.applyAll (table.kept calls value) value = ((table.applyAll calls value).1, []) := by
  induction calls generalizing value with
  | nil => rfl
  | cons call rest ih =>
      rcases table.apply_cases call value with ⟨warning, hobstacle, happly⟩ | ⟨hnone, hsnd⟩
      · -- The call leaves the value alone, so the rest of the chain starts from the same one.
        rw [kept_cons_of_obstacle hobstacle, applyAll_cons, happly, ih]
      · rw [kept_cons_of_no_obstacle hnone, applyAll_cons, applyAll_cons, ih, hsnd]
        rfl

theorem length_kept_add_length_obstacles (calls : List FilterCall) (value : Value) :
    (table.kept calls value).length + (table.obstacles calls value).length = calls.length := by
  induction calls generalizing value with
  | nil => rfl
  | cons call rest ih =>
      have hrest := ih (table.apply call value).1
      rw [obstacles_cons, List.length_append, List.length_cons]
      cases h : table.obstacle? call value with
      | none =>
          rw [kept_cons_of_no_obstacle h, List.length_cons, Option.toList_none, List.length_nil]
          omega
      | some warning =>
          rw [kept_cons_of_obstacle h, Option.toList_some, List.length_singleton]
          omega

theorem applyInto_eq (call : FilterCall) (value : Value) (log : Option (List Warning)) :
    table.applyInto call value log =
      ((table.apply call value).1, log.map (· ++ (table.apply call value).2)) := by
  unfold applyInto apply
  cases table.get? call.name with
  | none => rfl
  | some filter => cases hrun : filter.run value call.args <;> simp [hrun]

theorem applyAllInto_eq (calls : List FilterCall) (value : Value) (log : Option (List Warning)) :
    table.applyAllInto calls value log =
      ((table.applyAll calls value).1, log.map (· ++ (table.applyAll calls value).2)) := by
  induction calls generalizing value log with
  | nil => simp [applyAllInto, applyAll]
  | cons call rest ih =>
      simp only [applyAllInto, applyInto_eq, ih, applyAll_cons, Option.map_map]
      congr 2
      funext warnings
      exact List.append_assoc warnings _ _

end Clippings.FilterTable
