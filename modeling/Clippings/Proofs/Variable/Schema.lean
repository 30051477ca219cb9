import Clippings.Proofs.Text.Cutting
import Clippings.Proofs.Value.Entries
import Clippings.Proofs.Variable.Places

namespace Clippings

theorem searchSchema_append {path : Text} {before : Entries}
    (h : ∀ entry ∈ before, ∀ data, entry.2 = .map data →
      resolvePath path (.map data) = .ok (.text [])) (after : Entries) :
    searchSchema path (before ++ after) = searchSchema path after := by
  induction before with
  | nil => rfl
  | cons entry rest ih =>
      obtain ⟨key, value⟩ := entry
      obtain ⟨hvalue, hrest⟩ := List.forall_mem_cons.mp h
      rw [List.cons_append]
      cases value with
      | map data =>
          rw [searchSchema, hvalue data rfl]
          exact ih hrest
      | _ => exact ih hrest

theorem searchSchema_cons {path : Text} {data : Entries}
    (h : resolvePath path (.map data) ≠ .ok (.text [])) (key : Value) (after : Entries) :
    searchSchema path ((key, .map data) :: after) = resolvePath path (.map data) := by
  rw [searchSchema]
  cases hvalue : resolvePath path (.map data) with
  | error failure => rfl
  | ok value =>
      have hsome : value.same (.text []) ≠ true := by
        rw [Ne, Value.same_text_iff]
        rintro rfl
        exact h hvalue
      exact if_neg hsome

theorem resolveIn_schema (expression : Text) (context : Entries) :
    resolveIn VariablePlace.builtin ("schema:" ++ expression) (.map context) =
      schemaValue expression context := by
  have hprompt : Namespace.isPrompt ("schema:" ++ expression) = false := by
    have hquote : 's' ≠ '"' := by decide
    simp [Namespace.isPrompt, hquote]
  rw [resolveIn_builtin, Namespace.ofVariable, Namespace.all, List.find?_cons_of_neg]
  · rfl
  · rw [Namespace.admits, hprompt]
    exact Bool.false_ne_true

theorem schemaValue_eq_searchSchema {context types : Entries} {path : Text}
    (htypes : section? "_schema" context = some types) (hpath : path.head? ≠ some (.char '@')) :
    schemaValue path context = searchSchema path types := by
  simp only [schemaValue, htypes]
  split
  · simp at hpath
  · rfl

theorem schemaValue_typed {context types data : Entries} {name : Text}
    (htypes : section? "_schema" context = some types) (hname : .char ':' ∉ name)
    (hdata : types.getText? name = some (.map data)) (path : Text) :
    schemaValue (.char '@' :: (name ++ .char ':' :: path)) context =
      resolvePath path (.map data) := by
  simp only [schemaValue, htypes, Text.cut_append_cons hname, hdata]

/-- A variable of structured data without the name of a type has the value that it has with the name
of the first type for which this is not the empty text, and the empty text if there is no such type.
A type for which the look-up fails counts as one that has a value, and then both fail alike. -/
theorem resolveIn_schema_search {context types : Entries}
    (htypes : context.getText? "_schema" = some (.map types))
    (hkeys : ∀ entry ∈ types, ∃ name, entry.1 = .text name ∧ .char ':' ∉ name)
    (hdistinct : (types.map (·.1)).Nodup) {path : Text} (hpath : path.head? ≠ some (.char '@')) :
    let typed (name : Text) :=
      resolveIn VariablePlace.builtin ("schema:@" ++ name ++ ":" ++ path) (.map context)
    let untyped := resolveIn VariablePlace.builtin ("schema:" ++ path) (.map context)
    (∀ before name data after, types = before ++ (.text name, .map data) :: after →
        (∀ other entries, (.text other, .map entries) ∈ before → typed other = .ok (.text [])) →
        typed name ≠ .ok (.text []) → untyped = typed name) ∧
      ((∀ name data, (.text name, .map data) ∈ types → typed name = .ok (.text [])) →
        untyped = .ok (.text [])) := by
  intro typed untyped
  have hsection : section? "_schema" context = some types := by
    rw [section?, htypes]
    rfl
  have huntyped : untyped = searchSchema path types :=
    (resolveIn_schema path context).trans (schemaValue_eq_searchSchema hsection hpath)
  have htyped : ∀ key data, (key, .map data) ∈ types →
      ∃ name, key = .text name ∧ typed name = resolvePath path (.map data) := by
    intro key data hmem
    obtain ⟨name, hname, hcolon⟩ := hkeys _ hmem
    obtain rfl : key = .text name := hname
    refine ⟨name, rfl, ?_⟩
    have hdata := Entries.getText?_of_mem hdistinct hmem
    rw [← schemaValue_typed hsection hcolon hdata, ← resolveIn_schema]
    simp [typed]
  constructor
  · rintro before name data after rfl hbefore hfound
    obtain ⟨_, ⟨⟩, hname⟩ := htyped (.text name) data (by simp)
    rw [hname] at hfound
    rw [huntyped, hname, searchSchema_append ?_, searchSchema_cons hfound]
    rintro ⟨key, value⟩ hmem entries rfl
    obtain ⟨other, rfl, hother⟩ := htyped key entries (List.mem_append_left _ hmem)
    rw [← hother]
    exact hbefore other entries hmem
  · intro hnone
    rw [huntyped, ← List.append_nil types, searchSchema_append ?_, searchSchema]
    rintro ⟨key, value⟩ hmem entries rfl
    obtain ⟨name, rfl, hname⟩ := htyped key entries hmem
    rw [← hname]
    exact hnone name entries hmem

/-- The data of four types: a text, a mapping without the key, and two mappings with it. -/
def fourTypes : Entries :=
  [(.text "A", .text "n"), (.text "B", .map []), (.text "C", .map [(.text "n", .list [.int 0])]),
   (.text "D", .map [(.text "n", .list [.int 1])])]

theorem resolveIn_schema_search_zero :
    Entries.getText? "_schema" [(.text "_schema", .map fourTypes)] = some (.map fourTypes) ∧
      (∀ entry ∈ fourTypes, ∃ name, entry.1 = .text name ∧ .char ':' ∉ name) ∧
      (fourTypes.map (·.1)).Nodup ∧
      resolveIn VariablePlace.builtin "schema:@B:n[0]" (.map [(.text "_schema", .map fourTypes)]) =
        .ok (.text []) ∧
      resolveIn VariablePlace.builtin "schema:@C:n[0]" (.map [(.text "_schema", .map fourTypes)]) =
        .ok (.int 0) ∧
      resolveIn VariablePlace.builtin "schema:n[0]" (.map [(.text "_schema", .map fourTypes)]) =
        resolveIn VariablePlace.builtin "schema:@C:n[0]"
          (.map [(.text "_schema", .map fourTypes)]) := by
  have htypes : Entries.getText? "_schema" [(.text "_schema", .map fourTypes)] =
      some (.map fourTypes) := rfl
  have hkeys : ∀ entry ∈ fourTypes, ∃ name, entry.1 = .text name ∧ .char ':' ∉ name := by
    simp [fourTypes]
  have hdistinct : (fourTypes.map (·.1)).Nodup := by simp [fourTypes]
  have hempty : resolveIn VariablePlace.builtin "schema:@B:n[0]"
      (.map [(.text "_schema", .map fourTypes)]) = .ok (.text []) := rfl
  have hzero : resolveIn VariablePlace.builtin "schema:@C:n[0]"
      (.map [(.text "_schema", .map fourTypes)]) = .ok (.int 0) := rfl
  have hpath : ("n[0]" : Text).head? ≠ some (.char '@') := by decide
  refine ⟨htypes, hkeys, hdistinct, hempty, hzero, ?_⟩
  refine (resolveIn_schema_search htypes hkeys hdistinct hpath).1
    [(.text "A", .text "n"), (.text "B", .map [])] "C" _ _ rfl ?_ ?_
  · intro other entries hother
    obtain ⟨rfl, rfl⟩ : other = "B" ∧ entries = [] := by simpa using hother
    exact hempty
  · intro h
    cases hzero.symm.trans h

end Clippings
