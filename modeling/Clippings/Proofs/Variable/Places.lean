import Clippings.Variable.Namespace

namespace Clippings

theorem resolveIn_map_place (spaces : List Namespace) (variableName : Text) (context : Value) :
    resolveIn (spaces.map Namespace.place) variableName context =
      match spaces.find? (·.admits variableName) with
      | some space => space.resolve variableName context
      | none => .ok (.text []) := by
  induction spaces with
  | nil => rfl
  | cons space rest ih =>
      rw [List.map_cons, resolveIn, List.find?_cons]
      change (if space.admits variableName = true then space.resolve variableName context
        else resolveIn (rest.map Namespace.place) variableName context) = _
      cases space.admits variableName with
      | true => rfl
      | false => exact ih

theorem Namespace.admits_path (variableName : Text) : path.admits variableName = true :=
  List.isPrefixOf_nil_left (l := variableName)

theorem Namespace.find?_all (variableName : Text) :
    all.find? (·.admits variableName) = some (ofVariable variableName) := by
  obtain ⟨space, hspace⟩ : ∃ space, all.find? (·.admits variableName) = some space := by
    rw [← Option.isSome_iff_exists, List.find?_isSome]
    exact ⟨path, by decide, admits_path variableName⟩
  rw [ofVariable, hspace]
  rfl

theorem resolveIn_builtin (variableName : Text) (context : Value) :
    resolveIn VariablePlace.builtin variableName context =
      (Namespace.ofVariable variableName).resolve variableName context := by
  rw [VariablePlace.builtin, resolveIn_map_place, Namespace.find?_all]

end Clippings
