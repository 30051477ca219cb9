import Clippings.Proofs.Template.Checking

namespace Clippings

inductive Request
  | parse (body : Text)
  | evaluate (body : Text) (context : Value)
  | render (template context : Value)
  | variableNames (template : Text)
  | validate (expectations : Expectations) (template : Option Text)

inductive Reply
  | expression (expression : Expression)
  | value (outcome : Except Failure (Value × List Warning))
  | rendering (outcome : Except Failure Rendering)
  | variableNames (names : List Text)
  | validation (validation : Validation)

namespace Request

def run : Request → Engine → Reply × Engine
  | parse body, engine => (engine.parse body).map .expression id
  | evaluate body context, engine => (engine.evaluate body context).map .value id
  | render template context, engine => (engine.render template context).map .rendering id
  | variableNames template, engine => (engine.variableNames template).map .variableNames id
  | validate expectations template, engine =>
    (engine.validate expectations template).map .validation id

def lookups (dialect : Dialect) : Request → List Text
  | parse body => [body]
  | evaluate body _ => [body]
  | render (.text text) (.map entries) =>
    dialect.visited (.map entries) (Template.ofText text).holes
  | render _ _ => []
  | variableNames template => Engine.placeholders template
  | validate _ none => []
  | validate _ (some []) => []
  | validate expectations (some template) =>
    if expectations.strictness = .permissive then Engine.placeholders template
    else Engine.placeholders template ++ Engine.placeholders template

end Request

namespace Engine

def serve : List Request → Engine → List Reply × Engine
  | [], engine => ([], engine)
  | request :: rest, engine =>
    let (reply, engine) := request.run engine
    let (replies, engine) := engine.serve rest
    (reply :: replies, engine)

end Engine

namespace Request

theorem run_fst_congr (request : Request) {engine other : Engine}
    (h : engine.dialect = other.dialect) : (request.run engine).1 = (request.run other).1 := by
  cases request with
  | parse body => simp [run]
  | evaluate body context => simp [run, Engine.evaluate_fst, h]
  | render template context => simp [run, Engine.render_fst_congr h]
  | variableNames template => simp [run, Engine.variableNames_fst]
  | validate expectations template =>
      match template with
      | none => rfl
      | some [] => rfl
      | some (c :: rest) =>
        exact congrArg Reply.validation (Engine.validateText_fst_congr h expectations (c :: rest))

theorem run_snd (request : Request) (engine : Engine) :
    (request.run engine).2 = (engine.parseAll (request.lookups engine.dialect)).2 := by
  cases request with
  | parse body => rfl
  | evaluate body context => rfl
  | render template context =>
      cases template with
      | text text =>
          cases context with
          | map entries => exact Engine.renderHoles_snd _ _ engine
          | _ => rfl
      | _ => rfl
  | variableNames template => rfl
  | validate expectations template =>
      match template with
      | none => rfl
      | some [] => rfl
      | some (c :: rest) =>
        simp only [run, Engine.validate, lookups, Prod.map_snd, id_eq, Engine.validateText_snd]
        split <;> rfl

end Request

namespace Engine

theorem serve_cons (request : Request) (rest : List Request) (engine : Engine) :
    engine.serve (request :: rest) =
      ((request.run engine).1 :: ((request.run engine).2.serve rest).1,
        ((request.run engine).2.serve rest).2) := rfl

theorem serve_snd (requests : List Request) (engine : Engine) :
    (engine.serve requests).2 =
      (engine.parseAll (requests.flatMap (·.lookups engine.dialect))).2 := by
  induction requests generalizing engine with
  | nil => rfl
  | cons request rest ih =>
      rw [serve_cons, List.flatMap_cons, parseAll_append, ih, request.run_snd, parseAll_dialect]

theorem serve_fst (requests : List Request) {engine other : Engine}
    (h : engine.dialect = other.dialect) :
    (engine.serve requests).1 = requests.map fun request => (request.run other).1 := by
  induction requests generalizing engine with
  | nil => rfl
  | cons request rest ih =>
      have hnext : (request.run engine).2.dialect = other.dialect := by
        rw [request.run_snd, parseAll_dialect, h]
      rw [serve_cons, List.map_cons, ih hnext, request.run_fst_congr h]

/-- After any run of requests, the replies are the ones of a fresh engine of whatever size, and the
engine reads every body as it is read without a store. Its keys are distinct, each stands for its
own expression, and they are the bodies that were missed last, as many as the store may keep; a body
that is kept changes nothing when it is looked up again. -/
theorem serve_fresh (dialect : Dialect) (size : Int) (requests : List Request) :
    let fresh : Engine := { dialect, cacheSize := size }
    let after := (fresh.serve requests).2
    let lookups := requests.flatMap (·.lookups dialect)
    let missed := fresh.missed lookups
    (∀ other : Int, (fresh.serve requests).1 =
        requests.map fun request => (request.run { dialect, cacheSize := other }).1) ∧
      (∀ body, (after.parse body).1 = Expression.parse body) ∧
      after = (fresh.parseAll lookups).2 ∧
      after.cache.keys.Nodup ∧
      (∀ body ∈ after.cache.keys, after.cache.find? body = some (Expression.parse body)) ∧
      after.cache.keys = missed.rtake (min missed.length (max 1 size).toNat) ∧
      ∀ body ∈ after.cache.keys, (after.parse body).2 = after := by
  intro fresh after lookups missed
  have hafter : after = (fresh.parseAll lookups).2 := serve_snd requests fresh
  have hholds : after.cache.Holds size missed := by
    rw [hafter]
    exact @holds_parseAll fresh [] (ParseCache.holds_empty size) lookups
  refine ⟨fun other => serve_fst requests rfl, fun body => parse_fst body after, hafter,
    hholds.nodup, fun body hbody => ParseCache.find?_of_mem hbody, ?_,
    fun body hbody => parse_of_mem hbody⟩
  rw [hholds.keys_eq, ParseCache.capacity]
  unfold List.rtake
  congr 1
  omega

theorem serve_fresh_pushed_out :
    ({ cacheSize := 2 } : Engine).missed
        ([.render (.text "\x7b\x7ba\x7d\x7d\x7b\x7bb\x7d\x7d") (.map []), .parse "c",
          .evaluate "b" (.map []), .parse "a"].flatMap (Request.lookups {})) =
        ["a", "b", "c", "a"] ∧
      (({ cacheSize := 2 } : Engine).serve
        [.render (.text "\x7b\x7ba\x7d\x7d\x7b\x7bb\x7d\x7d") (.map []), .parse "c",
          .evaluate "b" (.map []), .parse "a"]).2.cache.keys =
        ["c", "a"] :=
  have h := serve_fresh {} 2
    [.render (.text "\x7b\x7ba\x7d\x7d\x7b\x7bb\x7d\x7d") (.map []), .parse "c",
      .evaluate "b" (.map []), .parse "a"]
  ⟨rfl, h.2.2.2.2.2.1⟩

end Engine

end Clippings
