import Clippings.Expression.Basic
/-!
A store of parsed expressions. It keeps those that were read last: when it is full, the oldest one
leaves, and finding an expression does not make it younger.
-/

namespace Clippings

/-- Bodies of placeholders with their expressions, the oldest first. What is kept for a body is
always what reading it gives. -/
structure ParseCache where
  entries : List (Text × Expression)
  sound : ∀ entry ∈ entries, entry.2 = Expression.parse entry.1
  deriving DecidableEq, Repr

namespace ParseCache

def empty : ParseCache := ⟨[], List.forall_mem_nil _⟩

def keys (cache : ParseCache) : List Text := cache.entries.map (·.1)

def find? (cache : ParseCache) (body : Text) : Option Expression := cache.entries.lookup body

/-- What stays when one more expression is to be kept: if the store has reached its size the oldest
one leaves. -/
def kept (size : Int) (cache : ParseCache) : List (Text × Expression) :=
  if size ≤ cache.entries.length then cache.entries.drop 1 else cache.entries

theorem mem_entries_of_mem_kept {size : Int} {cache : ParseCache} {entry : Text × Expression}
    (h : entry ∈ cache.kept size) : entry ∈ cache.entries := by
  unfold kept at h
  split at h
  · exact List.mem_of_mem_drop h
  · exact h

/-- Reads a body and keeps its expression. The store never gets too small for one. -/
def insert (size : Int) (body : Text) (cache : ParseCache) : ParseCache where
  entries := cache.kept size ++ [(body, Expression.parse body)]
  sound := by
    intro entry hentry
    rcases List.mem_append.mp hentry with hkept | hnew
    · exact cache.sound entry (mem_entries_of_mem_kept hkept)
    · rw [List.mem_singleton.mp hnew]

def parse (size : Int) (body : Text) (cache : ParseCache) : Expression × ParseCache :=
  match cache.find? body with
  | some expression => (expression, cache)
  | none => (Expression.parse body, cache.insert size body)

theorem eq_parse_of_find? {cache : ParseCache} {body : Text} {expression : Expression}
    (h : cache.find? body = some expression) : expression = Expression.parse body := by
  obtain ⟨before, after, hentries, -⟩ := List.lookup_eq_some_iff.mp h
  exact cache.sound (body, expression) (by rw [hentries]; simp)

theorem parse_fst (size : Int) (body : Text) (cache : ParseCache) :
    (cache.parse size body).1 = Expression.parse body := by
  unfold parse
  split
  · next expression hfind => exact eq_parse_of_find? hfind
  · rfl

end ParseCache

end Clippings
