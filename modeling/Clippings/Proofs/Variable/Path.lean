import Clippings.Proofs.Outcome
import Clippings.Proofs.Text.Cutting
import Clippings.Proofs.Value.Entries
import Clippings.Proofs.Value.PageData
import Clippings.Variable.Path
import Mathlib.Data.List.TakeWhile

namespace Clippings

namespace Text

def HasShortRuns (text : Text) : Prop :=
  ∀ run, run <:+: text → (∀ c ∈ run, isDecimal c = true) → run.length ≤ integerDigitLimit

theorem HasShortRuns.of_isInfix {part text : Text} (h : text.HasShortRuns)
    (hpart : part <:+: text) : part.HasShortRuns :=
  fun run hrun => h run (hrun.trans hpart)

theorem hasShortRuns_of_length_le {text : Text} (h : text.length ≤ integerDigitLimit) :
    text.HasShortRuns := fun _ hrun _ => hrun.length_le.trans h

theorem HasShortRuns.length_le {text : Text} (h : text.HasShortRuns)
    (hdigits : ∀ c ∈ text, isDecimal c = true) : text.length ≤ integerDigitLimit :=
  h text List.infix_rfl hdigits

end Text

/-- What fails because of too many digits in a row, which stand in a text. -/
inductive Failure.IsLongRun (text : Text) : Failure → Prop
  | mk {run : Text} (stands : run <:+: text) (digits : ∀ c ∈ run, Text.isDecimal c = true)
      (long : integerDigitLimit < run.length) : IsLongRun text (.longNumber run.length)

theorem Failure.IsLongRun.of_isInfix {part text : Text} {failure : Failure}
    (h : failure.IsLongRun part) (hpart : part <:+: text) : failure.IsLongRun text := by
  cases h with
  | mk stands digits long => exact .mk (stands.trans hpart) digits long

theorem Text.HasShortRuns.not_isLongRun {text : Text} (h : text.HasShortRuns) (failure : Failure) :
    ¬ failure.IsLongRun text := by
  rintro ⟨stands, digits, long⟩
  exact absurd (h _ stands digits) (Nat.not_le.mpr long)

def PathSegment.StandsIn (text : Text) : PathSegment → Prop
  | key name | every name => name <:+: text
  | item name digits =>
      name <:+: text ∧ digits <:+: text ∧ ∀ c ∈ digits, Text.isDecimal c = true

theorem PathSegment.standsIn_of_parseBracket? {part key text : Text} {segment : PathSegment}
    (hkey : key <:+: part) (htext : text <:+: part)
    (h : parseBracket? key text = some segment) : segment.StandsIn part := by
  simp only [parseBracket?] at h
  split at h
  · split at h
    · split at h
      · obtain rfl := Option.some.inj h
        exact hkey
      · simp at h
    · simp at h
  · split at h
    · obtain rfl := Option.some.inj h
      have hdigits := (List.takeWhile_prefix Text.isDecimal (l := text)).isInfix
      exact ⟨hkey, hdigits.trans htext, fun c hc => List.mem_takeWhile_imp hc⟩
    · simp at h

theorem PathSegment.standsIn_parse (part : Text) : (parse part).StandsIn part := by
  simp only [parse]
  split
  · next rest hrest =>
    split
    · exact List.infix_rfl
    · have hword := (List.takeWhile_prefix Text.isWord (l := part)).isInfix
      have hbehind : rest <:+: part := by
        have hsuffix := List.dropWhile_suffix Text.isWord (l := part)
        rw [hrest] at hsuffix
        exact ((List.suffix_cons (.char '[') rest).trans hsuffix).isInfix
      cases hbracket : parseBracket? (part.takeWhile Text.isWord) rest with
      | none => exact List.infix_rfl
      | some segment => exact standsIn_of_parseBracket? hword hbehind hbracket
  · exact List.infix_rfl

theorem PathSegment.StandsIn.of_isInfix {part text : Text} {segment : PathSegment}
    (h : segment.StandsIn part) (hpart : part <:+: text) : segment.StandsIn text := by
  cases segment with
  | key name => exact h.trans hpart
  | every name => exact h.trans hpart
  | item name digits => exact ⟨h.1.trans hpart, h.2.1.trans hpart, h.2.2⟩

theorem settles_position {digits text : Text} (hstands : digits <:+: text)
    (hdigits : ∀ c ∈ digits, Text.isDecimal c = true) :
    FailsOnly (Failure.IsLongRun text) (position digits) := by
  rw [position]
  split
  · next hlong => exact .error (.mk hstands hdigits hlong)
  · exact .ok trivial

theorem followPath_cons {segment : PathSegment} {rest : List PathSegment} {value : Value}
    {found : Option Value} {stops : Bool} (hvalue : value ≠ .null)
    (hfollow : segment.follow value = .ok (found, stops)) :
    followPath (segment :: rest) value =
      found.elim (.ok (.text [])) fun item => if stops then .ok item else followPath rest item := by
  cases value with
  | null => exact absurd rfl hvalue
  | _ =>
      simp only [followPath, hfollow, bind, Except.bind]
      cases found with
      | none => rfl
      | some item => cases stops <;> rfl

theorem followPath_eq_bind (segment : PathSegment) (rest : List PathSegment) (value : Value) :
    followPath (segment :: rest) value = segment.follow value >>= fun step =>
      step.1.elim (.ok (.text [])) fun item =>
        if step.2 then .ok item else followPath rest item := by
  by_cases hvalue : value = .null
  · subst hvalue
    cases segment <;> rfl
  · cases hfollow : segment.follow value with
    | error failure => cases value <;> simp_all [followPath, bind, Except.bind]
    | ok step => exact followPath_cons hvalue hfollow

section Parts

variable {D : Value → Prop} (hparts : Value.ClosedUnderParts D) {text : Text}
include hparts

theorem settles_lookUp {key : Text} (hkey : key <:+: text) {value : Value} (hvalue : D value) :
    Settles (Failure.IsLongRun text) (fun found => ∀ item ∈ found, D item) (lookUp key value) := by
  fun_cases lookUp key value with
  | case1 entries => exact .ok fun item h => Entries.of_getText? (hparts.entry hvalue) h
  | case2 value hmap items hitems hdigits =>
      have hdecimal : ∀ c ∈ key, Text.isDecimal c = true := by
        simpa using (Bool.and_eq_true_iff.mp hdigits).2
      refine (settles_position hkey hdecimal).bind fun n _ => .ok fun item h => ?_
      exact hparts.item hvalue hitems item (List.mem_of_getElem? h)
  | case3 => exact .ok (by simp)
  | case4 => exact .ok (by simp)

theorem PathSegment.settles_follow {segment : PathSegment} (hsegment : segment.StandsIn text)
    {value : Value} (hvalue : D value) :
    Settles (Failure.IsLongRun text) (fun step => ∀ item ∈ step.1, D item)
      (segment.follow value) := by
  cases segment with
  | key name => exact (settles_lookUp hparts hsegment hvalue).bind fun found h => .ok h
  | every name => exact (settles_lookUp hparts hsegment hvalue).bind fun found h => .ok h
  | item name digits =>
      refine (settles_lookUp hparts hsegment.1 hvalue).bind fun found hfound => ?_
      cases hitems : found.bind Value.items? with
      | none => exact .ok hfound
      | some items =>
          obtain ⟨whole, hwhole, hmembers⟩ := Option.bind_eq_some_iff.mp hitems
          obtain ⟨-, hdigits, hdecimal⟩ := hsegment
          refine (settles_position hdigits hdecimal).bind fun n _ => .ok fun item h => ?_
          exact hparts.item (hfound whole hwhole) hmembers item (List.mem_of_getElem? h)

theorem settles_followPath {segments : List PathSegment}
    (hsegments : ∀ segment ∈ segments, segment.StandsIn text) {value : Value} (hvalue : D value) :
    Settles (Failure.IsLongRun text) D (followPath segments value) := by
  fun_induction followPath segments value with
  | case1 => exact .ok (hparts.text [])
  | case2 => exact .ok hvalue
  | case3 segment rest value hnull ih =>
      obtain ⟨hsegment, hrest⟩ := List.forall_mem_cons.mp hsegments
      refine (PathSegment.settles_follow hparts hsegment hvalue).bind fun step hstep => ?_
      obtain ⟨found, isLast⟩ := step
      cases found with
      | none => exact .ok (hparts.text [])
      | some found =>
          cases isLast with
          | true => exact .ok (hstep found rfl)
          | false => exact ih found hrest (hstep found rfl)

theorem settles_resolvePath (path : Text) {data : Value} (hdata : D data) :
    Settles (Failure.IsLongRun path) D (resolvePath path data) := by
  refine settles_followPath hparts (fun segment hsegment => ?_) hdata
  obtain ⟨part, hpart, rfl⟩ := List.mem_map.mp hsegment
  exact (PathSegment.standsIn_parse part).of_isInfix (Text.isInfix_of_mem_splitOn hpart)

end Parts

theorem exists_resolvePath {path : Text} (hpath : path.HasShortRuns) (data : Value) :
    ∃ value, resolvePath path data = .ok value := by
  have hsettles : Settles (Failure.IsLongRun path) (fun _ => True) (resolvePath path data) :=
    settles_resolvePath Value.closedUnderParts_true path trivial
  obtain ⟨value, hvalue, -⟩ := hsettles.exists_ok hpath.not_isLongRun
  exact ⟨value, hvalue⟩

theorem PathSegment.parse_of_not_mem {part : Text}
    (h : .char '[' ∉ part) : parse part = .key part := by
  simp only [parse]
  split
  · next rest hrest =>
    have hsuffix := List.dropWhile_suffix Text.isWord (l := part)
    rw [hrest] at hsuffix
    exact absurd (hsuffix.subset List.mem_cons_self) h
  · rfl

theorem lookUp_of_long {digits : Text} {value : Value} {items : List Value}
    (hvalue : value.items? = some items) (hdigits : ∀ c ∈ digits, Text.isDecimal c = true)
    (hlong : integerDigitLimit < digits.length) :
    lookUp digits value = .error (.longNumber digits.length) := by
  have hne : digits ≠ [] := by
    rintro rfl
    cases hlong
  have hposition : position digits = .error (.longNumber digits.length) := if_pos hlong
  rw [lookUp.eq_def]
  split
  · cases hvalue
  · simp only [hvalue]
    rw [if_pos (by simpa [hne] using hdigits), hposition]
    rfl

theorem resolvePath_pair {key other : Text} (hpoint : .char '.' ∉ key ++ other)
    (hbracket : .char '[' ∉ key ++ other) (data : Value) :
    resolvePath (key ++ .char '.' :: other) data = followPath [.key key, .key other] data := by
  simp only [List.mem_append, not_or] at hpoint hbracket
  rw [resolvePath, Text.splitOn_append_cons, Text.splitOn_eq_singleton hpoint.1,
    Text.splitOn_eq_singleton hpoint.2]
  simp only [List.map_append, List.map_singleton, PathSegment.parse_of_not_mem hbracket.1,
    PathSegment.parse_of_not_mem hbracket.2]
  rfl

theorem resolvePath_of_long {key digits : Text} {entries : Entries} {value : Value}
    {items : List Value} (hpoint : .char '.' ∉ key ++ digits) (hbracket : .char '[' ∉ key ++ digits)
    (hfound : entries.getText? key = some value) (hvalue : value.items? = some items)
    (hdigits : ∀ c ∈ digits, Text.isDecimal c = true) (hlong : integerDigitLimit < digits.length) :
    resolvePath (key ++ .char '.' :: digits)
      (.map entries) = .error (.longNumber digits.length) := by
  have hkey : (PathSegment.key key).follow (.map entries) = .ok (some value, false) := by
    rw [PathSegment.follow, lookUp, hfound]
    rfl
  have hlast : (PathSegment.key digits).follow value = .error (.longNumber digits.length) := by
    rw [PathSegment.follow, lookUp_of_long hvalue hdigits hlong]
    rfl
  rw [resolvePath_pair hpoint hbracket, followPath_cons (by simp) hkey]
  cases value with
  | null => cases hvalue
  | _ =>
      simp only [Option.elim_some, followPath, hlast]
      rfl

end Clippings
