import Clippings.Proofs.Variable.Path
import Clippings.Proofs.Variable.Places
/-!
Variables in a mapping. Every place gives a part of the mapping or a text for a variable, and only
too many digits in a row keep a variable from having a value.
-/

namespace Clippings

namespace Text

theorem isSuffix_of_cut {sep : CodePoint} {text before after : Text}
    (h : cut sep text = (before, some after)) : after <:+ text := by
  induction text generalizing before with
  | nil => simp [cut] at h
  | cons c rest ih =>
      rw [cut] at h
      split at h
      · obtain rfl := Option.some.inj (Prod.mk.inj h).2
        exact List.suffix_cons c rest
      · have hcut : cut sep rest = ((cut sep rest).1, some after) :=
          Prod.ext rfl (Prod.mk.inj h).2
        exact (ih hcut).trans (List.suffix_cons c rest)

end Text

theorem followPath_nil (value : Value) : followPath [] value = .ok (orEmpty (some value)) := by
  cases value <;> rfl

theorem followPath_key (name : Text) (context : Entries) :
    followPath [.key name] (.map context) = .ok (orEmpty (context.getText? name)) := by
  rw [followPath_eq_bind, PathSegment.follow, lookUp]
  cases context.getText? name with
  | none => rfl
  | some value => exact followPath_nil value

section Parts

variable {D : Value → Prop} (hparts : Value.ClosedUnderParts D)
include hparts

theorem settles_searchSchema (path : Text) {types : Entries} (h : ∀ entry ∈ types, D entry.2) :
    Settles (Failure.IsLongRun path) D (searchSchema path types) := by
  fun_induction searchSchema path types with
  | case1 => exact .ok (hparts.text [])
  | case2 name entries rest ih =>
      obtain ⟨htype, hrest⟩ := List.forall_mem_cons.mp h
      refine (settles_resolvePath hparts path htype).bind fun value hvalue => ?_
      split
      · exact ih hrest
      · exact .ok hvalue
  | case3 entry rest hmap ih => exact ih (List.forall_mem_cons.mp h).2

variable {context : Entries} (hcontext : D (.map context))
include hcontext

theorem section?_parts {key : Text} {entries : Entries} (h : section? key context = some entries) :
    ∀ entry ∈ entries, D entry.2 := by
  obtain ⟨value, hvalue, hentries⟩ := Option.bind_eq_some_iff.mp h
  have hdata := Entries.of_getText? (hparts.entry hcontext) hvalue
  cases value with
  | map inner =>
      obtain rfl := Option.some.inj hentries
      exact hparts.entry hdata
  | _ => simp [Value.entries?] at hentries

theorem settles_schemaValue (expression : Text) :
    Settles (Failure.IsLongRun expression) D (schemaValue expression context) := by
  rw [schemaValue]
  split
  · exact .ok (hparts.text [])
  · next types htypes =>
    have htypes := section?_parts hparts hcontext htypes
    split
    · next typed =>
      split
      · exact .ok (hparts.text [])
      · next typeName path hcut =>
        have hpath : path <:+: .char '@' :: typed :=
          ((Text.isSuffix_of_cut hcut).trans (List.suffix_cons (.char '@') typed)).isInfix
        split
        · exact .ok (hparts.text [])
        · exact .ok (hparts.text [])
        · next data hnull hdata =>
          have hvalue := settles_resolvePath hparts path (Entries.of_getText? htypes hdata)
          exact hvalue.mono (fun failure h => h.of_isInfix hpath) fun _ h => h
    · exact settles_searchSchema hparts _ htypes

theorem metaValue_parts (expression : Text) : D (metaValue expression context) := by
  rw [metaValue]
  split
  · exact hparts.text []
  · next tags htags =>
    rw [orEmpty.eq_def]
    split
    · exact hparts.text []
    · exact hparts.text []
    · next hvalue => exact Entries.of_getText? (section?_parts hparts hcontext htags) hvalue

theorem selectorValue_parts (key selector : Text) : D (selectorValue key selector context) := by
  rw [selectorValue]
  split
  · exact hparts.text []
  · next results hresults =>
    split
    · next value hvalue =>
      split
      · exact Entries.of_getText? (section?_parts hparts hcontext hresults) hvalue
      · exact hparts.text []
    · exact hparts.text []

theorem Namespace.settles_resolve (variableName : Text) (space : Namespace) :
    Settles (Failure.IsLongRun variableName) D (space.resolve variableName (.map context)) := by
  have hrest : variableName.drop space.start.length <:+: variableName :=
    (List.drop_suffix _ _).isInfix
  cases space with
  | path => exact settles_resolvePath hparts variableName hcontext
  | schema =>
      exact (settles_schemaValue hparts hcontext _).mono (fun failure h => h.of_isInfix hrest)
        fun _ h => h
  | prompt => exact .ok (hparts.text _)
  | metaTag => exact .ok (metaValue_parts hparts hcontext _)
  | selector => exact .ok (selectorValue_parts hparts hcontext _ _)
  | selectorHtml => exact .ok (selectorValue_parts hparts hcontext _ _)

/-- In a mapping only too many digits in a row keep a variable from having a value, and the value is
a part of the mapping or a text. -/
theorem settles_resolveIn (variableName : Text) :
    Settles (Failure.IsLongRun variableName) D
      (resolveIn VariablePlace.builtin variableName (.map context)) := by
  rw [resolveIn_builtin]
  exact Namespace.settles_resolve hparts hcontext variableName _

end Parts

end Clippings
