import Clippings.Proofs.Template.Batch
import Mathlib.Data.List.GetD
/-!
Batches in several workers. The workers take turns in any order, and they share one engine: a turn
may read the body of a placeholder, with all that this changes in the engine's store, or go on with
an expression that was read in an earlier turn. What the jobs will come to is the same before and
after every turn (`Pool.promises_step`), so the order of the turns does not show.
-/

namespace Clippings

def Rendering.push (done : Rendering) (literal : Text) (next : Rendering) : Rendering where
  output := done.output ++ literal ++ next.output
  warnings := done.warnings ++ next.warnings

/-- The rendering of the placeholders and the text that are left, behind what is done. -/
def Dialect.renderRest (dialect : Dialect) (context : Value) (done : Rendering)
    (holes : List (Text × Text)) (rest : Text) : Except Failure Rendering := do
  let others ← dialect.renderHoles context holes
  return { output := done.output ++ others.output ++ rest
           warnings := done.warnings ++ others.warnings }

theorem Dialect.renderRest_nil (dialect : Dialect) (context : Value) (done : Rendering)
    (rest : Text) : dialect.renderRest context done [] rest =
      .ok { done with output := done.output ++ rest } := by
  simp [renderRest, renderHoles, bind, Except.bind, pure, Except.pure]

theorem Dialect.renderRest_cons (dialect : Dialect) (context : Value) (done : Rendering)
    (literal body : Text) (holes : List (Text × Text)) (rest : Text) :
    dialect.renderRest context done ((literal, body) :: holes) rest = (do
      let next ← dialect.renderExpression (Expression.parse (Text.strip body)) context
      dialect.renderRest context (done.push literal next) holes rest) := by
  simp only [renderRest, renderHoles]
  cases dialect.renderExpression (Expression.parse (Text.strip body)) context with
  | error failure => rfl
  | ok next =>
      cases dialect.renderHoles context holes with
      | error failure => rfl
      | ok others =>
          simp [bind, Except.bind, pure, Except.pure, Rendering.append, Rendering.push]

/-- A rendering in one context, as far as it has come: its next turn reads a placeholder, or it
evaluates the expression of the one that was read. -/
inductive Job
  | reading (context : Value) (done : Rendering) (holes : List (Text × Text)) (rest : Text)
  | evaluating (context : Value) (done : Rendering) (literal : Text) (expression : Expression)
    (holes : List (Text × Text)) (rest : Text)
  | ended (outcome : Except Failure Rendering)

namespace Job

def start (template context : Value) : Job :=
  match template, context with
  | .text text, .map entries =>
    .reading (.map entries) {} (Template.ofText text).holes (Template.ofText text).rest
  | .text _, context => .ended (.error (.contextKind context.kindName))
  | template, _ => .ended (.error (.templateKind template.kindName))

def step : Job → Engine → Job × Engine
  | .reading _ done [] rest, engine =>
    (.ended (.ok { done with output := done.output ++ rest }), engine)
  | .reading context done ((literal, body) :: holes) rest, engine =>
    let (expression, engine) := engine.parse (Text.strip body)
    (.evaluating context done literal expression holes rest, engine)
  | .evaluating context done literal expression holes rest, engine =>
    match engine.dialect.renderExpression expression context with
    | .error failure => (.ended (.error failure), engine)
    | .ok next => (.reading context (done.push literal next) holes rest, engine)
  | .ended outcome, engine => (.ended outcome, engine)

def outcome? : Job → Option (Except Failure Rendering)
  | .ended outcome => some outcome
  | _ => none

def promise (dialect : Dialect) : Job → Except Failure Rendering
  | .reading context done holes rest => dialect.renderRest context done holes rest
  | .evaluating context done literal expression holes rest => do
    let next ← dialect.renderExpression expression context
    dialect.renderRest context (done.push literal next) holes rest
  | .ended outcome => outcome

def remaining : Job → Nat
  | .reading _ _ holes _ => 2 * holes.length + 1
  | .evaluating _ _ _ _ holes _ => 2 * holes.length + 2
  | .ended _ => 0

theorem promise_start (template context : Value) (engine : Engine) :
    (start template context).promise engine.dialect = (engine.render template context).1 := by
  cases template with
  | text text =>
      cases context with
      | map entries =>
          rw [Engine.render_fst, start, promise, Dialect.renderText]
          cases h : engine.dialect.renderHoles (.map entries) (Template.ofText text).holes <;>
            simp [Dialect.renderRest, h, bind, Except.bind, pure, Except.pure]
      | _ => rfl
  | _ => rfl

@[simp] theorem step_dialect (job : Job) (engine : Engine) :
    (job.step engine).2.dialect = engine.dialect := by
  cases job with
  | reading context done holes rest => cases holes <;> rfl
  | evaluating context done literal expression holes rest =>
      rw [step]
      split <;> rfl
  | ended outcome => rfl

theorem promise_step (job : Job) (engine : Engine) :
    (job.step engine).1.promise engine.dialect = job.promise engine.dialect := by
  cases job with
  | reading context done holes rest =>
      cases holes with
      | nil => exact (Dialect.renderRest_nil engine.dialect context done rest).symm
      | cons hole holes =>
          obtain ⟨literal, body⟩ := hole
          rw [promise, Dialect.renderRest_cons, ← Engine.parse_fst _ engine]
          rfl
  | evaluating context done literal expression holes rest =>
      simp only [step, promise]
      cases engine.dialect.renderExpression expression context <;> rfl
  | ended outcome => rfl

theorem remaining_step (job : Job) (engine : Engine) :
    (job.step engine).1.remaining ≤ job.remaining - 1 := by
  cases job with
  | reading context done holes rest =>
      cases holes with
      | nil => exact Nat.zero_le _
      | cons hole holes =>
          simp only [step, remaining, List.length_cons]
          omega
  | evaluating context done literal expression holes rest =>
      rw [step]
      split <;> simp [remaining]
  | ended outcome => exact Nat.le_refl 0

theorem promise_of_outcome? {job : Job} {outcome : Except Failure Rendering}
    (h : job.outcome? = some outcome) (dialect : Dialect) : job.promise dialect = outcome := by
  cases job with
  | ended other => exact Option.some.inj h
  | _ => cases h

theorem outcome?_of_remaining {job : Job} (h : job.remaining = 0) (dialect : Dialect) :
    job.outcome? = some (job.promise dialect) := by
  cases job with
  | ended outcome => rfl
  | _ => cases h

theorem exists_iterate_step (context : Value) (done : Rendering) (holes : List (Text × Text))
    (rest : Text) (engine : Engine) :
    ∃ turns, (fun state : Job × Engine => state.1.step state.2)^[turns]
        (.reading context done holes rest, engine) =
      (.ended (engine.dialect.renderRest context done holes rest),
        (engine.renderHoles context holes).2) := by
  -- Every placeholder takes two turns, and the text behind the last one takes one more.
  induction holes generalizing done engine with
  | nil =>
      refine ⟨1, ?_⟩
      rw [Dialect.renderRest_nil]
      rfl
  | cons hole holes ih =>
      obtain ⟨literal, body⟩ := hole
      have hread : (Job.reading context done ((literal, body) :: holes) rest).step engine =
          (.evaluating context done literal (Expression.parse (Text.strip body)) holes rest,
            (engine.parse (Text.strip body)).2) := by
        rw [step, ← Engine.parse_fst _ engine]
      rw [Dialect.renderRest_cons]
      cases hnext :
        engine.dialect.renderExpression (Expression.parse (Text.strip body)) context with
      | error failure =>
          have hevaluate : (Job.evaluating context done literal (Expression.parse (Text.strip body))
              holes rest).step (engine.parse (Text.strip body)).2 =
              (.ended (.error failure), (engine.parse (Text.strip body)).2) := by
            simp only [step, Engine.parse_dialect, hnext]
          refine ⟨2, ?_⟩
          simp only [Function.iterate_succ_apply, Function.iterate_zero_apply, hread, hevaluate]
          simp only [Engine.renderHoles, Engine.parse_fst, Engine.parse_dialect, hnext]
          rfl
      | ok next =>
          have hevaluate : (Job.evaluating context done literal (Expression.parse (Text.strip body))
              holes rest).step (engine.parse (Text.strip body)).2 =
              (.reading context (done.push literal next) holes rest,
                (engine.parse (Text.strip body)).2) := by
            simp only [step, Engine.parse_dialect, hnext]
          obtain ⟨turns, hturns⟩ := ih (done.push literal next) (engine.parse (Text.strip body)).2
          refine ⟨turns + 2, ?_⟩
          simp only [Function.iterate_succ_apply, hread, hevaluate, hturns]
          simp only [Engine.renderHoles, Engine.parse_fst, Engine.parse_dialect, hnext]
          rfl

theorem exists_iterate_step_start (template context : Value) (engine : Engine) :
    ∃ turns, (fun state : Job × Engine => state.1.step state.2)^[turns]
        (start template context, engine) =
      (.ended (engine.render template context).1, (engine.render template context).2) := by
  rw [← promise_start]
  cases template with
  | text text =>
      cases context with
      | map entries => exact exists_iterate_step _ _ _ _ engine
      | _ => exact ⟨0, rfl⟩
  | _ => exact ⟨0, rfl⟩

/-- A worker's turn: it goes on with the first of its jobs that has not ended. -/
def takeTurn : List (Nat × Job) → Engine → List (Nat × Job) × Engine
  | [], engine => ([], engine)
  | (i, job) :: rest, engine =>
    if job.remaining = 0 then
      let (rest, engine) := takeTurn rest engine
      ((i, job) :: rest, engine)
    else
      let (job, engine) := job.step engine
      ((i, job) :: rest, engine)

/-- What the jobs of a worker will come to, with the positions of their contexts. -/
def promises (dialect : Dialect) (jobs : List (Nat × Job)) :
    List (Nat × Except Failure Rendering) :=
  jobs.map fun job => (job.1, job.2.promise dialect)

def turnsLeft (jobs : List (Nat × Job)) : Nat := (jobs.map (·.2.remaining)).sum

@[simp] theorem takeTurn_dialect (jobs : List (Nat × Job)) (engine : Engine) :
    (takeTurn jobs engine).2.dialect = engine.dialect := by
  induction jobs with
  | nil => rfl
  | cons job rest ih =>
      rw [takeTurn]
      split
      · exact ih
      · exact step_dialect job.2 engine

theorem promises_takeTurn (jobs : List (Nat × Job)) (engine : Engine) :
    promises engine.dialect (takeTurn jobs engine).1 = promises engine.dialect jobs := by
  induction jobs with
  | nil => rfl
  | cons job rest ih =>
      rw [takeTurn]
      split
      · exact congrArg ((job.1, job.2.promise engine.dialect) :: ·) ih
      · simp only [promises, List.map_cons, promise_step]

theorem turnsLeft_takeTurn (jobs : List (Nat × Job)) (engine : Engine) :
    turnsLeft (takeTurn jobs engine).1 ≤ turnsLeft jobs - 1 := by
  induction jobs with
  | nil => exact Nat.le_refl 0
  | cons job rest ih =>
      rw [takeTurn]
      split
      · next hended =>
        simp only [turnsLeft, List.map_cons, List.sum_cons, hended, Nat.zero_add]
        exact ih
      · next hleft =>
        have hstep := remaining_step job.2 engine
        simp only [turnsLeft, List.map_cons, List.sum_cons]
        omega

end Job

structure Pool where
  engine : Engine
  workers : List (List (Nat × Job))

namespace Pool

def step (pool : Pool) (worker : Nat) : Pool :=
  let (jobs, engine) := Job.takeTurn (pool.workers.getD worker []) pool.engine
  { engine, workers := pool.workers.set worker jobs }

def run (pool : Pool) (schedule : List Nat) : Pool := schedule.foldl step pool

/-- Workers that start with some contexts each, in the order in which they take them. -/
def start (engine : Engine) (template : Value) (assignment : List (List (Value × Nat))) : Pool where
  engine
  workers := assignment.map fun items => items.map fun item => (item.2, Job.start template item.1)

def outcome? (pool : Pool) (position : Nat) : Option (Except Failure Rendering) :=
  pool.workers.flatten.findSome? fun job => if job.1 = position then job.2.outcome? else none

def result? (pool : Pool) (count : Nat) : Option (Except Failure BatchResult) := do
  let outcomes ← (List.range count).mapM pool.outcome?
  return (BatchResult.collect outcomes).map fun outcomes => { outcomes, parallel := true }

def promises (pool : Pool) : List (List (Nat × Except Failure Rendering)) :=
  pool.workers.map (Job.promises pool.engine.dialect)

@[simp] theorem step_dialect (pool : Pool) (worker : Nat) :
    (pool.step worker).engine.dialect = pool.engine.dialect := Job.takeTurn_dialect _ _

theorem promises_step (pool : Pool) (worker : Nat) :
    (pool.step worker).promises = pool.promises := by
  have hjobs := Job.promises_takeTurn (pool.workers.getD worker []) pool.engine
  rw [promises, step_dialect]
  simp only [step, List.map_set, hjobs]
  -- What the worker promises is put back in its own place; a worker that is not there has no place.
  by_cases hworker : worker < pool.workers.length
  · rw [List.getD_eq_getElem _ _ hworker, ← List.getElem_map (Job.promises _),
      List.set_getElem_self]
    · rfl
    · simpa using hworker
  · rw [List.set_eq_of_length_le (by simpa using hworker)]
    rfl

theorem promises_run (pool : Pool) (schedule : List Nat) :
    (pool.run schedule).promises = pool.promises := by
  induction schedule generalizing pool with
  | nil => rfl
  | cons worker rest ih => exact (ih (pool.step worker)).trans (pool.promises_step worker)

theorem turnsLeft_step (pool : Pool) (worker other : Nat) :
    Job.turnsLeft ((pool.step worker).workers.getD other []) ≤
      Job.turnsLeft (pool.workers.getD other []) - if worker = other then 1 else 0 := by
  simp only [step, List.getD_eq_getElem?_getD, List.getElem?_set]
  by_cases hsame : worker = other
  · subst hsame
    rw [if_pos rfl, if_pos rfl]
    by_cases hworker : worker < pool.workers.length
    · rw [if_pos hworker, Option.getD_some]
      exact Job.turnsLeft_takeTurn _ _
    · rw [if_neg hworker]
      exact Nat.zero_le _
  · rw [if_neg hsame, if_neg hsame]
    exact Nat.le_refl _

theorem turnsLeft_run (pool : Pool) (schedule : List Nat) (worker : Nat) :
    Job.turnsLeft ((pool.run schedule).workers.getD worker []) ≤
      Job.turnsLeft (pool.workers.getD worker []) - schedule.count worker := by
  induction schedule generalizing pool with
  | nil => exact Nat.le_refl _
  | cons first rest ih =>
      have hstep := pool.turnsLeft_step first worker
      have hrest := ih (pool.step first)
      rw [List.count_cons]
      simp only [beq_iff_eq]
      exact (hrest.trans (Nat.sub_le_sub_right hstep _)).trans (by omega)

theorem length_workers_run (pool : Pool) (schedule : List Nat) :
    (pool.run schedule).workers.length = pool.workers.length := by
  induction schedule generalizing pool with
  | nil => rfl
  | cons worker rest ih => exact (ih (pool.step worker)).trans List.length_set

theorem turnsLeft_run_eq_zero {pool : Pool} {schedule : List Nat}
    (h : ∀ worker < pool.workers.length,
      (pool.workers.map Job.turnsLeft).sum ≤ schedule.count worker) :
    ∀ jobs ∈ (pool.run schedule).workers, Job.turnsLeft jobs = 0 := by
  intro jobs hjobs
  obtain ⟨worker, hworker, rfl⟩ := List.mem_iff_getElem.mp hjobs
  have hlt : worker < pool.workers.length := by rwa [← pool.length_workers_run schedule]
  have hleft := pool.turnsLeft_run schedule worker
  have henough := h worker hlt
  have hsum : Job.turnsLeft pool.workers[worker] ≤ (pool.workers.map Job.turnsLeft).sum :=
    List.le_sum_of_mem (List.mem_map.mpr ⟨_, List.getElem_mem hlt, rfl⟩)
  rw [List.getD_eq_getElem _ _ hworker, List.getD_eq_getElem _ _ hlt] at hleft
  omega

theorem mem_promises_of_outcome? {pool : Pool} {i : Nat} {outcome : Except Failure Rendering}
    (h : pool.outcome? i = some outcome) : (i, outcome) ∈ pool.promises.flatten := by
  obtain ⟨job, hjob, houtcome⟩ := List.exists_of_findSome?_eq_some h
  obtain ⟨jobs, hjobs, hmem⟩ := List.mem_flatten.mp hjob
  split at houtcome
  · next hi =>
    apply List.mem_flatten.mpr
    refine ⟨_, List.mem_map.mpr ⟨jobs, hjobs, rfl⟩, List.mem_map.mpr ⟨job, hmem, ?_⟩⟩
    rw [hi, Job.promise_of_outcome? houtcome]
  · cases houtcome

theorem exists_outcome? {pool : Pool} {i : Nat} {outcome : Except Failure Rendering}
    (hended : ∀ jobs ∈ pool.workers, Job.turnsLeft jobs = 0)
    (h : (i, outcome) ∈ pool.promises.flatten) : ∃ found, pool.outcome? i = some found := by
  obtain ⟨promises, hpromises, hmem⟩ := List.mem_flatten.mp h
  obtain ⟨jobs, hjobs, rfl⟩ := List.mem_map.mp hpromises
  obtain ⟨job, hjob, hpromise⟩ := List.mem_map.mp hmem
  obtain ⟨rfl, -⟩ := Prod.mk.inj hpromise
  have hremaining : job.2.remaining = 0 :=
    List.sum_eq_zero_iff.mp (hended jobs hjobs) _ (List.mem_map.mpr ⟨job, hjob, rfl⟩)
  apply Option.isSome_iff_exists.mp
  apply List.findSome?_isSome_iff.mpr
  refine ⟨job, List.mem_flatten.mpr ⟨jobs, hjobs, hjob⟩, ?_⟩
  rw [if_pos rfl, Job.outcome?_of_remaining hremaining pool.engine.dialect]
  rfl

section Outcomes

variable {pool : Pool} {outcomes : List (Except Failure Rendering)}
  (hpromises : ∀ i outcome, (i, outcome) ∈ pool.promises.flatten ↔ outcomes[i]? = some outcome)
include hpromises

theorem eq_of_result? {result : Except Failure BatchResult}
    (h : pool.result? outcomes.length = some result) :
    result = (BatchResult.collect outcomes).map fun outcomes => { outcomes, parallel := true } := by
  obtain ⟨found, hfound, hresult⟩ := Option.bind_eq_some_iff.mp h
  have hall : List.Forall₂ (fun i outcome => outcomes[i]? = some outcome)
      (List.range outcomes.length) found :=
    (Option.forall₂_of_mapM_eq_some hfound).imp fun i outcome houtcome =>
      (hpromises i outcome).mp (mem_promises_of_outcome? houtcome)
  obtain rfl : found = outcomes := by
    apply List.ext_getElem
    · rw [← hall.length_eq, List.length_range]
    · intro i hi hlt
      have hoption := hall.get (by simpa using hlt) hi
      simp only [List.get_eq_getElem, List.getElem_range] at hoption
      rw [List.getElem?_eq_getElem hlt] at hoption
      exact (Option.some.inj hoption).symm
  exact (Option.some.inj hresult).symm

theorem exists_result? (hended : ∀ jobs ∈ pool.workers, Job.turnsLeft jobs = 0) :
    ∃ result, pool.result? outcomes.length = some result := by
  obtain ⟨found, hfound⟩ : ∃ found,
      (List.range outcomes.length).mapM pool.outcome? = some found := by
    apply Option.exists_mapM_eq_some
    intro i hi
    have hi : i < outcomes.length := List.mem_range.mp hi
    exact exists_outcome? hended ((hpromises i outcomes[i]).mpr (List.getElem?_eq_getElem hi))
  exact ⟨_, by rw [result?, hfound]; rfl⟩

end Outcomes

theorem mem_promises_start {engine : Engine} {template : Value}
    {assignment : List (List (Value × Nat))} {contexts : List Value}
    (h : assignment.flatten.Perm contexts.zipIdx) (i : Nat) (outcome : Except Failure Rendering) :
    (i, outcome) ∈ (start engine template assignment).promises.flatten ↔
      (contexts.map fun context => (engine.render template context).1)[i]? = some outcome := by
  have hpromises : (start engine template assignment).promises.flatten =
      assignment.flatten.map fun item => (item.2, (engine.render template item.1).1) := by
    simp only [promises, start, Job.promises, List.map_map, List.map_flatten, Function.comp_def,
      Job.promise_start]
  rw [hpromises, List.mem_map, List.getElem?_map, Option.map_eq_some_iff]
  constructor
  · rintro ⟨⟨context, position⟩, hmem, heq⟩
    obtain ⟨rfl, rfl⟩ := Prod.mk.inj heq
    exact ⟨context, List.mk_mem_zipIdx_iff_getElem?.mp (h.mem_iff.mp hmem), rfl⟩
  · rintro ⟨context, hcontext, rfl⟩
    exact ⟨(context, i), h.mem_iff.mpr (List.mk_mem_zipIdx_iff_getElem?.mpr hcontext), rfl⟩

end Pool

namespace Engine

open BatchResult

section Runs

variable {engine : Engine} {template : Value} {contexts : List Value}
  {assignment : List (List (Value × Nat))}
  (hassignment : assignment.flatten.Perm contexts.zipIdx)
include hassignment

theorem mem_promises_run (schedule : List Nat) (i : Nat) (outcome : Except Failure Rendering) :
    (i, outcome) ∈ ((Pool.start engine template assignment).run schedule).promises.flatten ↔
      (contexts.map fun context => (engine.render template context).1)[i]? = some outcome := by
  rw [Pool.promises_run]
  exact Pool.mem_promises_start hassignment i outcome

/-- However the contexts are given to workers and in whatever order these take their turns, a result
collects the outcomes that the contexts have on their own. -/
theorem eq_of_result?_run {schedule : List Nat} {result : Except Failure BatchResult}
    (h : ((Pool.start engine template assignment).run schedule).result? contexts.length =
      some result) :
    result = (collect (contexts.map fun context => (engine.render template context).1)).map
      fun outcomes => { outcomes, parallel := true } := by
  apply Pool.eq_of_result? (mem_promises_run hassignment schedule)
  rwa [List.length_map]

theorem exists_result?_run : ∃ turns, ∀ schedule : List Nat,
    (∀ worker < assignment.length, turns ≤ schedule.count worker) →
      ∃ result, ((Pool.start engine template assignment).run schedule).result? contexts.length =
        some result := by
  refine ⟨((Pool.start engine template assignment).workers.map Job.turnsLeft).sum, ?_⟩
  intro schedule hfair
  have hended : ∀ jobs ∈ ((Pool.start engine template assignment).run schedule).workers,
      Job.turnsLeft jobs = 0 := by
    apply Pool.turnsLeft_run_eq_zero
    simpa only [Pool.start, List.length_map] using hfair
  have hresult := Pool.exists_result? (mem_promises_run hassignment schedule) hended
  rwa [List.length_map] at hresult

/-- Contexts that fail by their kind at most are rendered by workers as they are rendered one after
another: a batch whose workers keep taking turns has a result, and whatever the assignment and the
turns were, it has the outputs, the errors, the warnings and the numbers of the sequential batch,
which are those of each context on its own. -/
theorem workers_eq_sequential
    (hkinds : ∀ context ∈ contexts, ∀ failure,
      (engine.render template context).1 = .error failure → failure.kind = .type) :
    ∃ sequential : BatchResult,
      (engine.renderBatch { parallel := false } template (.list contexts)).1 = .ok sequential ∧
      sequential.Reports (contexts.map fun context => (engine.render template context).1) ∧
      (∀ schedule result,
        ((Pool.start engine template assignment).run schedule).result? contexts.length =
          some result →
        (∃ threaded, result = .ok threaded ∧ threaded.outputs = sequential.outputs ∧
          threaded.errors = sequential.errors ∧ threaded.warnings = sequential.warnings ∧
          threaded.successCount = sequential.successCount ∧
          threaded.errorCount = sequential.errorCount) ∧
        ∀ options : BatchOptions, options.parallel = true →
          options.parallelThreshold ≤ contexts.length → 0 < options.maxWorkers →
          (engine.renderBatch options template (.list contexts)).1 = result) ∧
      ∃ turns, ∀ schedule : List Nat,
        (∀ worker < assignment.length, turns ≤ schedule.count worker) →
          ∃ result, ((Pool.start engine template assignment).run schedule).result?
            contexts.length = some result := by
  have hkeeps : ∀ outcome ∈ contexts.map fun context => (engine.render template context).1,
      Keeps outcome := List.forall_mem_map.mpr hkinds
  have hsequential : (engine.renderBatch { parallel := false } template (.list contexts)).1 =
      .ok { outcomes := contexts.map fun context => (engine.render template context).1
            parallel := false } :=
    renderBatch_eq_ok_iff.mpr ⟨by simp, hkinds, rfl⟩
  refine ⟨_, hsequential, reports _, ?_, exists_result?_run hassignment⟩
  intro schedule result hresult
  have hcollect := eq_of_result?_run hassignment hresult
  rw [collect_of_keeps hkeeps] at hcollect
  constructor
  · exact ⟨_, hcollect, rfl, rfl, rfl, rfl, rfl⟩
  · intro options hparallel hlong hworkers
    rw [hcollect]
    refine renderBatch_eq_ok_iff.mpr ⟨fun _ _ => hworkers, hkinds, ?_⟩
    simp [hparallel, hlong]

end Runs

theorem workers_eq_sequential_small_store :
    let engine : Engine := { cacheSize := 1 }
    let template : Value := .text "\x7b\x7ba\x7d\x7d\x7b\x7bb|nope\x7d\x7d"
    let first : Value := .map [(.text "a", .int 1)]
    let second : Value := .text "not a mapping"
    let third : Value := .map [(.text "b", .int 2)]
    let assignment : List (List (Value × Nat)) := [[(first, 0), (second, 1)], [(third, 2)]]
    assignment.flatten.Perm ([first, second, third] : List Value).zipIdx ∧
      (∀ context ∈ [first, second, third], ∀ failure,
        (engine.render template context).1 = .error failure → failure.kind = .type) ∧
      ∃ sequential threaded : BatchResult,
        (engine.renderBatch { parallel := false } template (.list [first, second, third])).1 =
          .ok sequential ∧
        ((Pool.start engine template assignment).run [0, 1, 0, 1, 1, 0, 1, 0, 1, 0, 0]).result? 3 =
          some (.ok threaded) ∧
        threaded.outputs = sequential.outputs ∧
        threaded.outputs = (["1", [], "2"] : List Text) := by
  have hthreaded : ((Pool.start { cacheSize := 1 } (.text "\x7b\x7ba\x7d\x7d\x7b\x7bb|nope\x7d\x7d")
      [[(.map [(.text "a", .int 1)], 0), (.text "not a mapping", 1)],
        [(.map [(.text "b", .int 2)], 2)]]).run [0, 1, 0, 1, 1, 0, 1, 0, 1, 0, 0]).result? 3 =
      some (.ok
        { outcomes := [.ok { output := "1", warnings := [.unknownFilter "nope"] },
            .error (.contextKind "str"), .ok { output := "2", warnings := [.unknownFilter "nope"] }]
          parallel := true }) := by
    rfl
  intro engine template first second third assignment
  have hassignment : assignment.flatten.Perm ([first, second, third] : List Value).zipIdx :=
    List.Perm.refl _
  have hfirst : (engine.render template first).1 =
      .ok { output := "1", warnings := [.unknownFilter "nope"] } := rfl
  have hsecond : (engine.render template second).1 = .error (.contextKind "str") := rfl
  have hthird : (engine.render template third).1 =
      .ok { output := "2", warnings := [.unknownFilter "nope"] } := rfl
  have hkinds : ∀ context ∈ [first, second, third], ∀ failure,
      (engine.render template context).1 = .error failure → failure.kind = .type := by
    intro context hcontext failure hfailure
    simp only [List.mem_cons, List.not_mem_nil, or_false] at hcontext
    rcases hcontext with rfl | rfl | rfl
    · rw [hfirst] at hfailure
      cases hfailure
    · rw [hsecond] at hfailure
      rw [← Except.error.inj hfailure]
      rfl
    · rw [hthird] at hfailure
      cases hfailure
  obtain ⟨sequential, hsequential, -, hruns, -⟩ := workers_eq_sequential hassignment hkinds
  obtain ⟨⟨other, hother, houtputs, -⟩, -⟩ := hruns _ _ hthreaded
  obtain rfl := Except.ok.inj hother
  exact ⟨hassignment, hkinds, sequential, _, hsequential, hthreaded, houtputs, rfl⟩

end Engine

end Clippings
