import Clippings.Proofs.Outcome
import Clippings.Proofs.Variable.ContextKeys
import Clippings.Proofs.Variable.Path
/-!
Composition of paths. A path behind a path leads to where it leads from the value at the end of the
first one, unless that one stops at a whole list; and a position in brackets leads where the
position as a segment of its own leads.
-/

namespace Clippings

def pathSegments (path : Text) : List PathSegment := (Text.splitOn '.' path).map PathSegment.parse

theorem resolvePath_eq (path : Text) (data : Value) :
    resolvePath path data = followPath (pathSegments path) data := rfl

theorem pathSegments_append (first second : Text) :
    pathSegments (first ++ .char '.' :: second) = pathSegments first ++ pathSegments second := by
  rw [pathSegments, Text.splitOn_append_cons, List.map_append]
  rfl

theorem pathSegments_of_not_mem {part : Text} (hdot : .char '.' ∉ part) :
    pathSegments part = [PathSegment.parse part] := by
  rw [pathSegments, Text.splitOn_eq_singleton hdot]
  rfl

/-- Following segments comes to a list through a segment that asks for the whole list. -/
inductive ReachesWholeList : List PathSegment → Value → Prop
  | here {key : Text} {rest : List PathSegment} {value whole : Value} {items : List Value}
      (hfound : lookUp key value = .ok (some whole)) (hitems : whole.items? = some items) :
      ReachesWholeList (.every key :: rest) value
  | later {segment : PathSegment} {rest : List PathSegment} {value found : Value}
      (hfollow : segment.follow value = .ok (some found, false))
      (hrest : ReachesWholeList rest found) : ReachesWholeList (segment :: rest) value

theorem reachesWholeList_of_stop {segment : PathSegment} {value found : Value}
    (h : segment.follow value = .ok (some found, true)) (rest : List PathSegment) :
    ReachesWholeList (segment :: rest) value := by
  cases segment with
  | key name =>
      obtain ⟨item, -, hitem⟩ := Except.exists_of_bind_eq_ok h
      cases hitem
  | every name =>
      obtain ⟨item, hitem, hstops⟩ := Except.exists_of_bind_eq_ok h
      obtain ⟨rfl, hlist⟩ := Prod.mk.inj (Except.ok.inj hstops)
      obtain ⟨items, hitems⟩ := Option.isSome_iff_exists.mp hlist
      exact .here hitem hitems
  | item name digits =>
      obtain ⟨item, -, hitem⟩ := Except.exists_of_bind_eq_ok h
      split at hitem
      · obtain ⟨n, -, hn⟩ := Except.exists_of_bind_eq_ok hitem
        exact absurd (congrArg Prod.snd (Except.ok.inj hn)) Bool.false_ne_true
      · cases hitem

theorem followPath_null (segments : List PathSegment) :
    followPath segments .null = .ok (.text []) := by
  cases segments <;> rfl

theorem followPath_empty (segments : List PathSegment) :
    followPath segments (.text []) = .ok (.text []) := by
  cases segments with
  | nil => rfl
  | cons segment rest => cases segment <;> rfl

theorem followPath_append {first : List PathSegment} {value : Value}
    (h : ¬ ReachesWholeList first value) (second : List PathSegment) :
    followPath (first ++ second) value = followPath first value >>= followPath second := by
  induction first generalizing value with
  | nil =>
      cases value with
      | null => exact (followPath_null second).trans (followPath_empty second).symm
      | _ => rfl
  | cons segment rest ih =>
      rw [List.cons_append, followPath_eq_bind, followPath_eq_bind]
      cases hfollow : segment.follow value with
      | error failure => rfl
      | ok step =>
          obtain ⟨found, stops⟩ := step
          cases found with
          | none => exact (followPath_empty second).symm
          | some item =>
              cases stops with
              | true => exact absurd (reachesWholeList_of_stop hfollow rest) h
              | false => exact ih fun hrest => h (.later hfollow hrest)

theorem ReachesWholeList.followPath_append {first : List PathSegment} {value : Value}
    (h : ReachesWholeList first value) (second : List PathSegment) :
    followPath (first ++ second) value = followPath first value := by
  induction h with
  | @here key rest value whole items hfound hitems =>
      have hfollow : (PathSegment.every key).follow value = .ok (some whole, true) := by
        simp only [PathSegment.follow, hfound, bind, Except.bind, Option.bind_some, hitems]
        rfl
      rw [List.cons_append, followPath_eq_bind, followPath_eq_bind, hfollow]
      rfl
  | @later segment rest value found hfollow hrest ih =>
      rw [List.cons_append, followPath_eq_bind, followPath_eq_bind, hfollow]
      exact ih

namespace PathSegment

theorem parse_item {key digits : Text} (hne : key ≠ []) (hkey : ∀ c ∈ key, Text.isWord c = true)
    (hsome : digits ≠ []) (hdigits : ∀ c ∈ digits, Text.isDecimal c = true) :
    parse (key ++ .char '[' :: (digits ++ [.char ']'])) = .item key digits := by
  have hbracket : Text.isWord '[' = false := by decide
  have hclosing : Text.isDecimal ']' = false := by decide
  have hword :
      (key ++ CodePoint.char '[' :: (digits ++ [CodePoint.char ']'])).takeWhile Text.isWord =
        key := by
    rw [List.takeWhile_append_of_pos hkey, List.takeWhile_cons_of_neg (by simp [hbracket]),
      List.append_nil]
  have hrest :
      (key ++ CodePoint.char '[' :: (digits ++ [CodePoint.char ']'])).dropWhile Text.isWord =
        .char '[' :: (digits ++ [.char ']']) := by
    rw [List.dropWhile_append_of_pos hkey, List.dropWhile_cons_of_neg (by simp [hbracket])]
  have htaken : (digits ++ [CodePoint.char ']']).takeWhile Text.isDecimal = digits := by
    rw [List.takeWhile_append_of_pos hdigits, List.takeWhile_cons_of_neg (by simp [hclosing]),
      List.append_nil]
  have hleft : (digits ++ [CodePoint.char ']']).dropWhile Text.isDecimal = [.char ']'] := by
    rw [List.dropWhile_append_of_pos hdigits, List.dropWhile_cons_of_neg (by simp [hclosing])]
  simp only [parse, hword, hrest, List.isEmpty_eq_false_iff.mpr hne, parseBracket?, htaken, hleft,
    List.isEmpty_eq_false_iff.mpr hsome]
  rfl

end PathSegment

/-- A position in brackets is one segment, and behind a dot it is a segment of its own; what follows
is read in the same way. -/
theorem exists_pathSegments_item {key digits rest : Text} (hne : key ≠ [])
    (hkey : ∀ c ∈ key, Text.isWord c = true) (hsome : digits ≠ [])
    (hdigits : ∀ c ∈ digits, Text.isDecimal c = true)
    (hrest : rest = [] ∨ ∃ more, rest = .char '.' :: more) :
    ∃ behind,
      pathSegments (key ++ .char '[' :: (digits ++ .char ']' :: rest)) =
        .item key digits :: behind ∧
      pathSegments (key ++ .char '.' :: (digits ++ rest)) = .key key :: .key digits :: behind := by
  have hkeyDot : .char '.' ∉ key := fun h => absurd (hkey _ h) (by decide)
  have hkeyBracket : .char '[' ∉ key := fun h => absurd (hkey _ h) (by decide)
  have hdigitsDot : .char '.' ∉ digits := fun h => absurd (hdigits _ h) (by decide)
  have hdigitsBracket : .char '[' ∉ digits := fun h => absurd (hdigits _ h) (by decide)
  have hitemDot : .char '.' ∉ key ++ .char '[' :: (digits ++ [.char ']']) := by
    simp [hkeyDot, hdigitsDot]
  have hitem := pathSegments_of_not_mem hitemDot
  have hfirst := pathSegments_of_not_mem hkeyDot
  have hsecond := pathSegments_of_not_mem hdigitsDot
  rw [PathSegment.parse_item hne hkey hsome hdigits] at hitem
  rw [PathSegment.parse_of_not_mem hkeyBracket] at hfirst
  rw [PathSegment.parse_of_not_mem hdigitsBracket] at hsecond
  rcases hrest with rfl | ⟨more, rfl⟩
  · refine ⟨[], hitem, ?_⟩
    rw [List.append_nil, pathSegments_append, hfirst, hsecond]
    rfl
  · refine ⟨pathSegments more, ?_, ?_⟩
    · have hsplit : key ++ .char '[' :: (digits ++ .char ']' :: .char '.' :: more) =
          key ++ .char '[' :: (digits ++ [.char ']']) ++ .char '.' :: more := by simp
      rw [hsplit, pathSegments_append, hitem]
      rfl
    · rw [pathSegments_append, pathSegments_append, hfirst, hsecond]
      rfl

namespace PathSegment

theorem follow_item {key digits : Text} {value whole : Value} {items : List Value}
    (hfound : lookUp key value = .ok (some whole)) (hitems : whole.items? = some items)
    (hsome : digits ≠ []) (hdigits : ∀ c ∈ digits, Text.isDecimal c = true) :
    (item key digits).follow value = (PathSegment.key digits).follow whole := by
  have hposition : (!digits.isEmpty && digits.all Text.isDecimal) = true := by
    simpa [hsome] using hdigits
  have hlookUp : lookUp digits whole = (do return items[← position digits]?) := by
    cases whole with
    | list _ | tuple _ =>
        obtain rfl := Option.some.inj hitems
        simp only [lookUp, Value.items?, hposition, if_true]
    | _ => cases hitems
  simp only [follow, hfound, hlookUp, bind, Except.bind, Option.bind_some, hitems]
  cases position digits <;> rfl

end PathSegment

theorem followPath_append_congr {before first second : List PathSegment} {key : Text}
    {value whole : Value} {items : List Value}
    (hfound : followPath (before ++ [.key key]) value = .ok whole)
    (hitems : whole.items? = some items)
    (h : ∀ found, lookUp key found = .ok (some whole) →
      followPath first found = followPath second found) :
    followPath (before ++ first) value = followPath (before ++ second) value := by
  by_cases hreaches : ReachesWholeList before value
  · rw [hreaches.followPath_append, hreaches.followPath_append]
  · rw [followPath_append hreaches] at hfound ⊢
    rw [followPath_append hreaches]
    obtain ⟨found, hend, hkey⟩ := Except.exists_of_bind_eq_ok hfound
    rw [hend]
    refine h found ?_
    rw [followPath_eq_bind] at hkey
    obtain ⟨⟨item, stops⟩, hfollow, hitem⟩ := Except.exists_of_bind_eq_ok hkey
    obtain ⟨item, hlookUp, hstep⟩ := Except.exists_of_bind_eq_ok hfollow
    obtain ⟨rfl, rfl⟩ := Prod.mk.inj (Except.ok.inj hstep)
    cases item with
    | none =>
        obtain rfl := Except.ok.inj hitem
        cases hitems
    | some item =>
        cases item with
        | null =>
            obtain rfl := Except.ok.inj hitem
            cases hitems
        | _ =>
            obtain rfl := Except.ok.inj hitem
            exact hlookUp

/-- A path behind a path leads to where it leads from the end of the first one, in whatever data,
unless the first one stops at a whole list; then what stands behind it does not count. A position in
brackets behind a key of a list leads to where the position leads as a segment of its own. And
without long runs of digits every path leads somewhere. -/
theorem resolvePath_append (path : Text) (data : Value) :
    (¬ ReachesWholeList (pathSegments path) data → ∀ more,
        resolvePath (path ++ .char '.' :: more) data = resolvePath path data >>= resolvePath more) ∧
      (ReachesWholeList (pathSegments path) data → ∀ more,
        resolvePath (path ++ .char '.' :: more) data = resolvePath path data) ∧
      (∀ (key digits rest : Text) (whole : Value) (items : List Value),
        key ≠ [] → (∀ c ∈ key, Text.isWord c = true) →
        digits ≠ [] → (∀ c ∈ digits, Text.isDecimal c = true) →
        (rest = [] ∨ ∃ more, rest = .char '.' :: more) →
        resolvePath (path ++ .char '.' :: key) data = .ok whole → whole.items? = some items →
        resolvePath (path ++ .char '.' :: (key ++ .char '[' :: (digits ++ .char ']' :: rest)))
            data =
          resolvePath (path ++ .char '.' :: (key ++ .char '.' :: (digits ++ rest))) data) ∧
      ∀ any : Text, any.HasShortRuns → ∃ value, resolvePath any data = .ok value := by
  refine ⟨?_, ?_, ?_, ?_⟩
  · intro hreaches more
    rw [resolvePath_eq, pathSegments_append]
    exact followPath_append hreaches _
  · intro hreaches more
    rw [resolvePath_eq, pathSegments_append]
    exact hreaches.followPath_append _
  · intro key digits rest whole items hne hkey hsome hdigits hrest hwhole hitems
    obtain ⟨behind, hitem, hsegments⟩ := exists_pathSegments_item hne hkey hsome hdigits hrest
    have hplain : pathSegments key = [.key key] := by
      rw [pathSegments_of_not_mem fun h => absurd (hkey _ h) (by decide),
        PathSegment.parse_of_not_mem fun h => absurd (hkey _ h) (by decide)]
    rw [resolvePath_eq, pathSegments_append, hplain] at hwhole
    rw [resolvePath_eq, resolvePath_eq, pathSegments_append, pathSegments_append, hitem, hsegments]
    refine followPath_append_congr hwhole hitems fun found hfound => ?_
    have hstep : (PathSegment.key key).follow found = .ok (some whole, false) := by
      rw [PathSegment.follow, hfound]
      rfl
    rw [followPath_eq_bind, PathSegment.follow_item hfound hitems hsome hdigits,
      followPath_eq_bind (.key key), hstep]
    exact (followPath_eq_bind _ _ _).symm
  · intro any hany
    exact exists_resolvePath hany data

def listedPage : Value :=
  .map [(.text "a", .map [(.text "b", .list [.map [(.text "t", .int 1)]])])]

theorem resolvePath_append_digits :
    (¬ ReachesWholeList (pathSegments "a.c") listedPage ∧
      resolvePath (("a.c" : Text) ++ .char '.' :: "b[0]") listedPage =
        resolvePath "a.c" listedPage >>= resolvePath "b[0]") ∧
      (ReachesWholeList (pathSegments "a.b[*]") listedPage ∧
        resolvePath (("a.b[*]" : Text) ++ .char '.' :: "t") listedPage =
          resolvePath "a.b[*]" listedPage) ∧
      resolvePath (("a" : Text) ++
          .char '.' :: (("b" : Text) ++ .char '[' :: (("٠" : Text) ++ .char ']' :: (".t" : Text))))
          listedPage =
        resolvePath (("a" : Text) ++
          .char '.' :: (("b" : Text) ++ .char '.' :: (("٠" : Text) ++ (".t" : Text)))) listedPage ∧
      ∃ value, resolvePath "a.b[0].t" listedPage = .ok value := by
  have hmissing : ¬ ReachesWholeList (pathSegments "a.c") listedPage := by
    rintro (_ | ⟨hfirst, _ | ⟨hsecond, hrest⟩⟩)
    cases hrest
  have hwhole : ReachesWholeList (pathSegments "a.b[*]") listedPage :=
    .later rfl (.here rfl rfl)
  obtain ⟨-, -, hitem, hshort⟩ := resolvePath_append "a" listedPage
  refine ⟨⟨hmissing, (resolvePath_append "a.c" listedPage).1 hmissing _⟩,
    ⟨hwhole, (resolvePath_append "a.b[*]" listedPage).2.1 hwhole _⟩, ?_, ?_⟩
  · exact hitem "b" "٠" ".t" _ _ (by decide) (List.all_eq_true.mp (by decide)) (by decide)
      (List.all_eq_true.mp (by decide)) (.inr ⟨"t", rfl⟩) rfl rfl
  · exact hshort _ (Text.hasShortRuns_of_length_le (by decide))

end Clippings
