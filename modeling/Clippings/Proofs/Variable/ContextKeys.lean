import Clippings.Proofs.Text.Cutting
import Clippings.Proofs.Variable.Places
import Mathlib.Data.List.TakeWhile

namespace Clippings

namespace PathSegment

def keyText : PathSegment → Text
  | key name => name
  | item name _ => name
  | every name => name

theorem keyText_of_parseBracket? {name text : Text} {segment : PathSegment}
    (h : parseBracket? name text = some segment) : segment.keyText = name := by
  simp only [parseBracket?] at h
  split at h
  · split at h
    · split at h
      · obtain rfl := Option.some.inj h
        rfl
      · cases h
    · cases h
  · split at h
    · obtain rfl := Option.some.inj h
      rfl
    · cases h

theorem parse_cases (part : Text) :
    parse part = key part ∨ ∃ rest, part = part.takeWhile Text.isWord ++ .char '[' :: rest ∧
      (parse part).keyText = part.takeWhile Text.isWord := by
  have hsplit := List.takeWhile_append_dropWhile (p := Text.isWord) (l := part)
  simp only [parse]
  split
  · next rest hrest =>
    split
    · exact .inl rfl
    · cases hbracket : parseBracket? (part.takeWhile Text.isWord) rest with
      | none => exact .inl rfl
      | some segment =>
          exact .inr ⟨rest, (hrest ▸ hsplit).symm, keyText_of_parseBracket? hbracket⟩
  · exact .inl rfl

theorem keyText_parse {part : Text} (h : .char '[' ∉ (parse part).keyText) :
    (parse part).keyText = (Text.cut '[' part).1 := by
  rcases parse_cases part with hkey | ⟨rest, hpart, hkey⟩
  · rw [hkey] at h ⊢
    change (.char '[') ∉ part at h
    rw [Text.cut_of_not_mem h]
    rfl
  · rw [hkey] at h ⊢
    conv => rhs; rw [hpart]
    rw [Text.cut_append_cons h]

theorem follow_congr {segment : PathSegment} {first second : Entries}
    (h : first.getText? segment.keyText = second.getText? segment.keyText) :
    segment.follow (.map first) = segment.follow (.map second) := by
  have hlookUp : lookUp segment.keyText (.map first) = lookUp segment.keyText (.map second) := by
    rw [lookUp, lookUp, h]
  cases segment with
  | key name => exact congrArg (· >>= _) hlookUp
  | item name digits => exact congrArg (· >>= _) hlookUp
  | every name => exact congrArg (· >>= _) hlookUp

end PathSegment

def pathKey (path : Text) : Text := (PathSegment.parse (Text.cut '.' path).1).keyText

theorem resolvePath_congr {path : Text} {first second : Entries}
    (h : first.getText? (pathKey path) = second.getText? (pathKey path)) :
    resolvePath path (.map first) = resolvePath path (.map second) := by
  obtain ⟨rest, hparts⟩ := Text.exists_splitOn_eq '.' path
  rw [resolvePath, resolvePath, hparts, List.map_cons]
  simp only [followPath, PathSegment.follow_congr h]

/-- The key of a context under which a variable of a place is looked up; prompts need none. -/
def Namespace.contextKey? (variableName : Text) : Namespace → Option Text
  | prompt => none
  | metaTag => some "metadata"
  | selector => some "_selectors"
  | selectorHtml => some "_selectorsHtml"
  | schema => some "_schema"
  | path => some (pathKey variableName)

theorem section?_congr {key : Text} {first second : Entries}
    (h : first.getText? key = second.getText? key) : section? key first = section? key second := by
  rw [section?, section?, h]

theorem Namespace.resolve_congr {variableName : Text} {place : Namespace} {first second : Entries}
    (h : ∀ key ∈ place.contextKey? variableName, first.getText? key = second.getText? key) :
    place.resolve variableName (.map first) = place.resolve variableName (.map second) := by
  cases place with
  | prompt => rfl
  | metaTag =>
      have hsection := section?_congr (h _ rfl)
      simp only [resolve, resolveSection, metaValue, hsection]
  | selector =>
      have hsection := section?_congr (h _ rfl)
      simp only [resolve, resolveSection, selectorValue, hsection]
  | selectorHtml =>
      have hsection := section?_congr (h _ rfl)
      simp only [resolve, resolveSection, selectorValue, hsection]
  | schema =>
      have hsection := section?_congr (h _ rfl)
      simp only [resolve, resolveSection, schemaValue, hsection]
  | path => exact resolvePath_congr (h _ rfl)

theorem resolveIn_builtin_congr {variableName : Text} {first second : Entries}
    (h : ∀ key ∈ (Namespace.ofVariable variableName).contextKey? variableName,
      first.getText? key = second.getText? key) :
    resolveIn VariablePlace.builtin variableName (.map first) =
      resolveIn VariablePlace.builtin variableName (.map second) := by
  rw [resolveIn_builtin, resolveIn_builtin]
  exact Namespace.resolve_congr h

end Clippings
