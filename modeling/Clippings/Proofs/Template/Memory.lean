import Clippings.Proofs.Template.Rendering
import Mathlib.Data.List.DropRight
/-!
What an engine remembers. A store of expressions holds the bodies that it missed last, and whatever
an engine is used for, it is left as if the bodies had been looked up one after another.
-/

namespace Clippings

/-- The bodies that are looked up while placeholders are rendered: the first one that fails is the
last. -/
def Dialect.visited (dialect : Dialect) (context : Value) : List (Text × Text) → List Text
  | [] => []
  | (_, body) :: rest =>
    Text.strip body ::
      match dialect.renderExpression (Expression.parse (Text.strip body)) context with
      | .error _ => []
      | .ok _ => dialect.visited context rest

namespace ParseCache

/-- How many expressions a store keeps: at least one, whatever its size says. -/
def capacity (size : Int) : Nat := (max 1 size).toNat

structure Holds (size : Int) (missed : List Text) (cache : ParseCache) : Prop where
  keys_eq : cache.keys = missed.rtake (capacity size)
  nodup : cache.keys.Nodup

theorem find?_eq_none_iff {cache : ParseCache} {body : Text} :
    cache.find? body = none ↔ body ∉ cache.keys := by
  rw [find?, List.lookup_eq_none_iff, keys, List.mem_map]
  constructor
  · rintro hnone ⟨entry, hentry, rfl⟩
    simpa using hnone entry hentry
  · intro hnot entry hentry
    have hne : body ≠ entry.1 := fun heq => hnot ⟨entry, hentry, heq.symm⟩
    simpa using hne

theorem find?_of_mem {cache : ParseCache} {body : Text} (h : body ∈ cache.keys) :
    cache.find? body = some (Expression.parse body) := by
  cases hfind : cache.find? body with
  | none => exact absurd h (find?_eq_none_iff.mp hfind)
  | some expression => rw [eq_parse_of_find? hfind]

theorem parse_of_mem {cache : ParseCache} {body : Text} (size : Int) (h : body ∈ cache.keys) :
    (cache.parse size body).2 = cache := by
  rw [parse, find?_of_mem h]

theorem keys_parse_of_not_mem {cache : ParseCache} {body : Text} (size : Int)
    (h : body ∉ cache.keys) :
    (cache.parse size body).2.keys =
      (if size ≤ cache.keys.length then cache.keys.drop 1 else cache.keys) ++ [body] := by
  rw [parse, find?_eq_none_iff.mpr h]
  simp only [insert, kept, keys, List.length_map]
  split <;> simp

theorem holds_empty (size : Int) : Holds size [] empty :=
  ⟨by simp [keys, empty], by simp [keys, empty]⟩

/-- Pushing out the oldest key of a full store leaves the keys that were missed last. A store with
room has all that was missed, and one of size zero or less keeps the newest key alone. -/
theorem push_rtake_capacity (size : Int) (missed : List Text) (body : Text) :
    (if size ≤ (missed.rtake (capacity size)).length then (missed.rtake (capacity size)).drop 1
      else missed.rtake (capacity size)) ++ [body] = (missed ++ [body]).rtake (capacity size) := by
  have hcapacity : (capacity size : Int) = max 1 size := by
    unfold capacity
    omega
  obtain ⟨room, hroom⟩ : ∃ room, capacity size = room + 1 := ⟨capacity size - 1, by omega⟩
  rw [hroom, List.rtake_concat_succ]
  congr 1
  simp only [List.rtake, List.length_drop, List.drop_drop]
  split
  · by_cases hfull : room + 1 ≤ missed.length
    · congr 1
      omega
    · obtain rfl : missed = [] := List.eq_nil_of_length_eq_zero (by omega)
      simp
  · congr 1
    omega

theorem Holds.parse_of_not_mem {size : Int} {missed : List Text} {cache : ParseCache} {body : Text}
    (h : Holds size missed cache) (hbody : body ∉ cache.keys) :
    Holds size (missed ++ [body]) (cache.parse size body).2 := by
  have hkeys := keys_parse_of_not_mem size hbody
  constructor
  · rw [hkeys, h.keys_eq, push_rtake_capacity]
  · rw [hkeys, List.nodup_append]
    refine ⟨?_, by simp, ?_⟩
    · split
      · exact h.nodup.sublist (List.drop_sublist 1 _)
      · exact h.nodup
    · intro kept hkept last hlast
      rw [List.mem_singleton.mp hlast]
      refine ne_of_mem_of_not_mem ?_ hbody
      split at hkept
      · exact List.mem_of_mem_drop hkept
      · exact hkept

end ParseCache

namespace Engine

theorem parse_of_mem {engine : Engine} {body : Text} (h : body ∈ engine.cache.keys) :
    (engine.parse body).2 = engine := by
  change { engine with cache := (engine.cache.parse engine.cacheSize body).2 } = engine
  rw [ParseCache.parse_of_mem engine.cacheSize h]

/-- The bodies that an engine misses when it looks up some bodies one after another: those that it
does not keep at that moment. -/
def missed : List Text → Engine → List Text
  | [], _ => []
  | body :: rest, engine =>
    if body ∈ engine.cache.keys then missed rest (engine.parse body).2
    else body :: missed rest (engine.parse body).2

theorem parseAll_cons (body : Text) (rest : List Text) (engine : Engine) :
    engine.parseAll (body :: rest) =
      ((engine.parse body).1 :: ((engine.parse body).2.parseAll rest).1,
        ((engine.parse body).2.parseAll rest).2) := rfl

@[simp] theorem parseAll_fst (bodies : List Text) (engine : Engine) :
    (engine.parseAll bodies).1 = bodies.map Expression.parse := by
  induction bodies generalizing engine with
  | nil => rfl
  | cons body rest ih => rw [parseAll_cons, List.map_cons, ih, parse_fst]

@[simp] theorem parseAll_dialect (bodies : List Text) (engine : Engine) :
    (engine.parseAll bodies).2.dialect = engine.dialect := by
  induction bodies generalizing engine with
  | nil => rfl
  | cons body rest ih => rw [parseAll_cons, ih, parse_dialect]

theorem parseAll_append (bodies others : List Text) (engine : Engine) :
    (engine.parseAll (bodies ++ others)).2 =
      ((engine.parseAll bodies).2.parseAll others).2 := by
  induction bodies generalizing engine with
  | nil => rfl
  | cons body rest ih => rw [List.cons_append, parseAll_cons, parseAll_cons, ih]

theorem holds_parseAll {engine : Engine} {before : List Text}
    (h : engine.cache.Holds engine.cacheSize before) (bodies : List Text) :
    (engine.parseAll bodies).2.cache.Holds engine.cacheSize (before ++ engine.missed bodies) := by
  induction bodies generalizing engine before with
  | nil => simpa [missed, parseAll] using h
  | cons body rest ih =>
      rw [parseAll_cons, missed]
      split
      · next hmem =>
        rw [parse_of_mem hmem]
        exact ih h
      · next hnot =>
        rw [List.append_cons]
        exact @ih (engine.parse body).2 _ (h.parse_of_not_mem hnot)

theorem renderHoles_snd (context : Value) (holes : List (Text × Text)) (engine : Engine) :
    (engine.renderHoles context holes).2 =
      (engine.parseAll (engine.dialect.visited context holes)).2 := by
  induction holes generalizing engine with
  | nil => rfl
  | cons hole rest ih =>
      obtain ⟨literal, body⟩ := hole
      simp only [renderHoles, Dialect.visited, parse_fst, parse_dialect, parseAll_cons]
      cases engine.dialect.renderExpression (Expression.parse (Text.strip body)) context with
      | error failure => rfl
      | ok first => simp only [ih, parse_dialect]

@[simp] theorem renderHoles_dialect (context : Value) (holes : List (Text × Text))
    (engine : Engine) : (engine.renderHoles context holes).2.dialect = engine.dialect := by
  rw [renderHoles_snd, parseAll_dialect]

@[simp] theorem render_dialect (template context : Value) (engine : Engine) :
    (engine.render template context).2.dialect = engine.dialect := by
  cases template with
  | text text =>
      cases context with
      | map entries => exact renderHoles_dialect _ _ engine
      | _ => rfl
  | _ => rfl

theorem render_fst_congr {engine other : Engine} (h : engine.dialect = other.dialect)
    (template context : Value) : (engine.render template context).1 =
      (other.render template context).1 := by
  cases template with
  | text text =>
      cases context with
      | map entries => rw [render_fst, render_fst, h]
      | _ => rfl
  | _ => rfl

end Engine

end Clippings
