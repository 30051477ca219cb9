import Clippings.Proofs.Text.Cutting
import Clippings.Screen.Markup
import Mathlib.Data.List.TakeWhile
/-!
What a text in markup shows. A text that was escaped opens and closes nothing, whatever stands
behind it, and a text without a closing tag always shows something.
-/

namespace Clippings.Markup

def isInside (c : CodePoint) : Bool := c ≠ ']' && c ≠ '['

def NoClose (text : Text) : Prop := (text.dropWhile isInside).head? ≠ some (.char ']')

theorem noClose_nil : NoClose [] := by simp [NoClose]

theorem noClose_open (rest : Text) : NoClose (.char '[' :: rest) := by simp [NoClose, isInside]

theorem noClose_cons {c : CodePoint} (h : isInside c = true) (rest : Text) :
    NoClose (c :: rest) ↔ NoClose rest := by
  simp [NoClose, h]

theorem ne_of_noClose_cons {c : CodePoint} {rest : Text} (h : NoClose (c :: rest)) : c ≠ ']' := by
  rintro rfl
  exact h rfl

theorem noClose_append {text : Text} (h : ∀ c ∈ text, isInside c = true) (rest : Text) :
    NoClose (text ++ rest) ↔ NoClose rest := by
  induction text with
  | nil => rfl
  | cons c text ih =>
      obtain ⟨hc, htext⟩ := List.forall_mem_cons.mp h
      rw [List.cons_append, noClose_cons hc, ih htext]

theorem isInside_of_mem_slashes (n : Nat) : ∀ c ∈ List.replicate n (.char '\\'),
    isInside c = true := by
  intro c hc
  rw [List.eq_of_mem_replicate hc]
  rfl

theorem noClose_of_not_mem {text : Text} (h : .char ']' ∉ text) : NoClose text := by
  intro hhead
  exact h ((List.dropWhile_suffix isInside).subset (List.mem_of_mem_head? hhead))

theorem bracketed?_cons_of_ne {c : CodePoint} (h : c ≠ '[') (rest : Text) :
    bracketed? (c :: rest) = none := by
  rw [bracketed?.eq_def]
  split
  · rename_i heq
    exact absurd (List.cons.inj heq).1 h
  · rfl

theorem bracketed?_open (c : CodePoint) (rest : Text) :
    bracketed? (.char '[' :: c :: rest) =
      match rest.dropWhile isInside with
      | ']' :: behind => if startsTag c then some (c :: rest.takeWhile isInside, behind) else none
      | _ => none := by
  have hdrop : (rest.takeWhile isInside ++ rest.dropWhile isInside).drop
      (rest.takeWhile isInside).length = rest.dropWhile isInside := List.drop_left ..
  rw [List.takeWhile_append_dropWhile] at hdrop
  rw [← hdrop]
  rfl

theorem bracketed?_of_noClose (c : CodePoint) {rest : Text} (h : NoClose rest) :
    bracketed? (.char '[' :: c :: rest) = none := by
  rw [bracketed?_open]
  split
  · rename_i hclose
    exact absurd (congrArg List.head? hclose) h
  · rfl

theorem noClose_of_bracketed? {c : CodePoint} {rest : Text} (hc : startsTag c = true)
    (h : bracketed? (.char '[' :: c :: rest) = none) : NoClose rest := by
  rw [bracketed?_open] at h
  intro hhead
  split at h
  · rw [if_pos hc] at h
    cases h
  · rename_i hother
    cases hrest : rest.dropWhile isInside with
    | nil => simp [hrest] at hhead
    | cons d behind =>
        rw [hrest] at hhead
        obtain rfl : d = ']' := Option.some.inj hhead
        exact hother behind hrest

theorem bracketed?_of_not_startsTag {c : CodePoint} (hc : startsTag c = false) (rest : Text) :
    bracketed? (.char '[' :: c :: rest) = none := by
  rw [bracketed?_open]
  split
  · rw [hc]
    rfl
  · rfl

theorem bracketed?_eq_some {text tag behind : Text} (h : bracketed? text = some (tag, behind)) :
    text = .char '[' :: tag ++ .char ']' :: behind ∧
      ∀ rest, bracketed? (.char '[' :: tag ++ .char ']' :: rest) = some (tag, rest) := by
  rw [bracketed?.eq_def] at h
  split at h
  · rename_i c rest
    change bracketed? (.char '[' :: c :: rest) = _ at h
    rw [bracketed?_open] at h
    split at h
    · rename_i after hafter
      split at h
      · rename_i hc
        obtain ⟨rfl, rfl⟩ := Prod.mk.inj (Option.some.inj h)
        have hsplit := List.takeWhile_append_dropWhile (p := isInside) (l := rest)
        rw [hafter] at hsplit
        refine ⟨by rw [List.cons_append, List.cons_append, hsplit], ?_⟩
        intro other
        have hinside : ∀ d ∈ rest.takeWhile isInside, isInside d = true :=
          fun d hd => List.mem_takeWhile_imp hd
        rw [List.cons_append, List.cons_append, bracketed?_open,
          List.dropWhile_append_of_pos hinside, List.takeWhile_append_of_pos hinside]
        simp [isInside, hc]
      · cases h
    · cases h
  · cases h

theorem exists_slashes (text : Text) :
    ∃ n rest, text = List.replicate n (.char '\\') ++ rest ∧
      rest.head? ≠ some (CodePoint.char '\\') := by
  induction text with
  | nil => exact ⟨0, [], rfl, by simp⟩
  | cons c text ih =>
      by_cases hc : c = .char '\\'
      · obtain ⟨n, rest, rfl, hrest⟩ := ih
        exact ⟨n + 1, rest, by rw [hc, List.replicate_succ, List.cons_append], hrest⟩
      · exact ⟨0, c :: text, rfl, by simpa using hc⟩

theorem slashes_append (n : Nat) {rest : Text} (h : rest.head? ≠ some (.char '\\')) :
    slashes (List.replicate n (.char '\\') ++ rest) = List.replicate n (.char '\\') := by
  have hrest : rest.takeWhile (· = .char '\\') = [] := by
    cases rest with
    | nil => rfl
    | cons c rest =>
        have hc : c ≠ .char '\\' := by simpa using h
        simp [hc]
  rw [slashes, List.takeWhile_append_of_pos (by simp), hrest, List.append_nil]

theorem drop_slashes (n : Nat) {rest : Text} (h : rest.head? ≠ some (.char '\\')) :
    (List.replicate n (CodePoint.char '\\') ++ rest).drop
      (slashes (List.replicate n (CodePoint.char '\\') ++ rest)).length =
      rest := by
  rw [slashes_append n h, List.drop_left]

theorem head?_ne_of_bracketed? {text tag behind : Text}
    (h : bracketed? text = some (tag, behind)) : text.head? ≠ some (.char '\\') := by
  rw [(bracketed?_eq_some h).1]
  simp

/-- A text and how it is escaped: what looks like a tag gets a backslash, and the backslashes before
it are doubled. -/
inductive Escaped : Text → Text → Prop
  | slashes (n : Nat) : Escaped (List.replicate n '\\') (List.replicate n '\\')
  | tag {text tag behind written : Text} (n : Nat) (looks : bracketed? text = some (tag, behind))
      (rest : Escaped behind written) :
      Escaped (List.replicate n (.char '\\') ++ text)
        (List.replicate (2 * n + 1) (.char '\\') ++ (.char '[' :: tag ++ .char ']' :: written))
  | plain {c : CodePoint} {text written : Text} (n : Nat) (slash : c ≠ .char '\\')
      (looks : bracketed? (c :: text) = none) (rest : Escaped text written) :
      Escaped (List.replicate n (.char '\\') ++ c :: text)
        (List.replicate n (.char '\\') ++ c :: written)

theorem escapeTags_tag (fuel n : Nat) {text tag behind : Text}
    (h : bracketed? text = some (tag, behind)) :
    escapeTags (fuel + 1) (List.replicate n (.char '\\') ++ text) =
      List.replicate (2 * n + 1) (.char '\\') ++
        (.char '[' :: tag ++ .char ']' :: escapeTags fuel behind) := by
  have hhead := head?_ne_of_bracketed? h
  have hslashes := slashes_append n hhead
  have hdrop := drop_slashes n hhead
  cases hcons : List.replicate n (.char '\\') ++ text with
  | nil =>
      obtain ⟨-, rfl⟩ := List.append_eq_nil_iff.mp hcons
      simp [bracketed?] at h
  | cons c rest =>
      rw [hcons] at hslashes hdrop
      rw [escapeTags, hdrop, h, hslashes, List.replicate_succ', Nat.two_mul,
        ← List.replicate_append_replicate]
      simp

theorem escapeTags_plain (fuel : Nat) (c : CodePoint) (text : Text)
    (h : bracketed? ((c :: text).drop (Markup.slashes (c :: text)).length) = none) :
    escapeTags (fuel + 1) (c :: text) = c :: escapeTags fuel text := by
  rw [escapeTags, h]

theorem escapeTags_slashes (fuel n : Nat) {rest : Text} (hhead : rest.head? ≠ some (.char '\\'))
    (h : bracketed? rest = none) :
    escapeTags (fuel + n) (List.replicate n (.char '\\') ++ rest) =
      List.replicate n (.char '\\') ++ escapeTags fuel rest := by
  induction n with
  | zero => rfl
  | succ n ih =>
      have hnone := drop_slashes (n + 1) hhead
      rw [List.replicate_succ, List.cons_append] at hnone ⊢
      rw [← Nat.add_assoc, escapeTags_plain (fuel + n) '\\' _ (by rw [hnone, h]), ih]
      rfl

theorem escaped_escapeTags {fuel : Nat} (text : Text) (hfuel : text.length ≤ fuel) :
    Escaped text (escapeTags fuel text) := by
  induction hlength : text.length using Nat.strong_induction_on generalizing text fuel with
  | _ length ih =>
      obtain ⟨n, rest, rfl, hhead⟩ := exists_slashes text
      rw [List.length_append, List.length_replicate] at hfuel hlength
      cases h : bracketed? rest with
      | some found =>
          obtain ⟨tag, behind⟩ := found
          have hrest := congrArg List.length (bracketed?_eq_some h).1
          simp only [List.length_append, List.length_cons] at hrest
          obtain ⟨fuel, rfl⟩ := Nat.exists_eq_succ_of_ne_zero (by omega : fuel ≠ 0)
          rw [escapeTags_tag fuel n h]
          exact .tag n h (ih behind.length (by omega) behind (by omega) rfl)
      | none =>
          obtain ⟨fuel, rfl⟩ := Nat.exists_eq_add_of_le' (Nat.le_of_add_right_le hfuel)
          rw [escapeTags_slashes fuel n hhead h]
          cases rest with
          | nil =>
              have hnil : escapeTags fuel [] = [] := by cases fuel <;> rfl
              rw [hnil, List.append_nil]
              exact .slashes n
          | cons c rest =>
              have hc : c ≠ '\\' := by simpa using hhead
              have hdrop := drop_slashes 0 hhead
              rw [List.replicate_zero, List.nil_append] at hdrop
              simp only [List.length_cons] at hfuel hlength
              obtain ⟨fuel, rfl⟩ := Nat.exists_eq_succ_of_ne_zero (by omega : fuel ≠ 0)
              rw [escapeTags_plain fuel c rest (by rw [hdrop, h])]
              exact .plain n hc h (ih rest.length (by omega) rest (by omega) rfl)

theorem bracketed?_of_not_mem {text : Text} (h : .char '[' ∉ text) : bracketed? text = none := by
  cases text with
  | nil => rfl
  | cons c rest => exact bracketed?_cons_of_ne (fun hc => h (by simp [hc])) rest

theorem escapeTags_eq_self (fuel : Nat) {text : Text} (h : .char '[' ∉ text) :
    escapeTags fuel text = text := by
  induction fuel generalizing text with
  | zero => rw [escapeTags]
  | succ fuel ih =>
      cases text with
      | nil => rfl
      | cons c rest =>
          have hdrop : .char '[' ∉ (c :: rest).drop (slashes (c :: rest)).length :=
            fun hmem => h (List.mem_of_mem_drop hmem)
          rw [escapeTags_plain fuel c rest (bracketed?_of_not_mem hdrop),
            ih (fun hmem => h (List.mem_cons_of_mem c hmem))]

theorem escape_eq_self {text : Text} (hopen : .char '[' ∉ text) (hslash : .char '\\' ∉ text) :
    escape text = text := by
  rw [escape, escapeTags_eq_self _ hopen]
  split
  · rename_i hlast
    simp only [Bool.and_eq_true, decide_eq_true_eq] at hlast
    exact absurd (List.mem_of_getLast? hlast.1) hslash
  · rfl

theorem Escaped.mem {text written : Text} (h : Escaped text written) {c : CodePoint}
    (hc : c ∈ written) : c ∈ text ∨ c = '\\' := by
  induction h with
  | slashes n => exact .inl hc
  | @tag text tag behind written n looks rest ih =>
      rw [(bracketed?_eq_some looks).1]
      rcases List.mem_append.mp hc with hslash | hc
      · exact .inr (List.eq_of_mem_replicate hslash)
      · simp only [List.cons_append, List.mem_cons, List.mem_append] at hc ⊢
        rcases hc with hc | hc | hc | hc
        · simp [hc]
        · simp [hc]
        · simp [hc]
        · rcases ih hc with hc | hc
          · simp [hc]
          · exact .inr hc
  | @plain d text written n slash looks rest ih =>
      simp only [List.mem_cons, List.mem_append] at hc ⊢
      rcases hc with hc | hc | hc
      · exact .inl (.inl hc)
      · exact .inl (.inr (.inl hc))
      · rcases ih hc with hc | hc
        · exact .inl (.inr (.inr hc))
        · exact .inr hc

theorem mem_escape {text : Text} {c : CodePoint} (hc : c ∈ escape text) : c ∈ text ∨ c = '\\' := by
  have hescaped := escaped_escapeTags text le_rfl
  rw [escape] at hc
  split at hc
  · rcases List.mem_append.mp hc with hc | hc
    · exact hescaped.mem hc
    · exact .inr (by simpa using hc)
  · exact hescaped.mem hc

theorem isWhole_escape {text : Text} (h : text.IsWhole) : (escape text).IsWhole := by
  intro c hc
  rcases mem_escape hc with hc | rfl
  · exact h c hc
  · rfl

variable {palette : Palette}

/-- What is shown is written in the markup. -/
theorem sublist_visibleFrom {fuel : Nat} {tags : List OpenTag} {markup text : Text}
    (h : visibleFrom palette fuel tags markup = some text) : text.Sublist markup := by
  induction fuel generalizing tags markup text with
  | zero => exact Option.some.inj h ▸ .refl _
  | succ fuel ih =>
      cases markup with
      | nil => exact Option.some.inj h ▸ .refl _
      | cons c rest =>
          have hbefore : slashes (c :: rest) ++ (c :: rest).drop (slashes (c :: rest)).length =
              c :: rest := List.prefix_iff_eq_append.mp (List.takeWhile_prefix _)
          rw [visibleFrom] at h
          dsimp only at h
          split at h
          · next tag behind hlooks =>
              rw [← hbefore, (bracketed?_eq_some hlooks).1]
              split at h
              · obtain ⟨later, hlater, rfl⟩ := Option.map_eq_some_iff.mp h
                have hrest := (ih hlater).cons_cons (CodePoint.char ']')
                simp only [List.append_assoc, List.cons_append]
                exact (List.take_sublist _ _).append
                  (((List.Sublist.refl tag).append hrest).cons_cons _)
              · split at h
                · cases h
                · obtain ⟨later, hlater, rfl⟩ := Option.map_eq_some_iff.mp h
                  refine (List.take_sublist _ _).append ((ih hlater).trans ?_)
                  exact List.IsSuffix.sublist ⟨.char '[' :: tag ++ [.char ']'], by simp⟩
          · split at h
            · exact (ih h).trans (List.sublist_cons_self c rest)
            · obtain ⟨later, hlater, rfl⟩ := Option.map_eq_some_iff.mp h
              exact (ih hlater).cons_cons c

theorem isWhole_visible? {markup text : Text} (h : visible? palette markup = some text)
    (hwhole : markup.IsWhole) : text.IsWhole :=
  fun c hc => hwhole c ((sublist_visibleFrom h).subset hc)

def Shows (palette : Palette) (tags : List OpenTag) (markup : Text) : Prop :=
  ∀ fuel, (visibleFrom palette fuel tags markup).isSome = true

theorem shows_nil (tags : List OpenTag) : Shows palette tags [] := by
  intro fuel
  cases fuel <;> rfl

theorem Shows.exists_visible? {markup : Text} (h : Shows palette [] markup) :
    ∃ text, visible? palette markup = some text := Option.isSome_iff_exists.mp (h markup.length)

theorem Shows.plain {tags : List OpenTag} {c : CodePoint} {rest : Text}
    (hnone : bracketed? ((c :: rest).drop (Markup.slashes (c :: rest)).length) = none)
    (h : Shows palette tags rest) : Shows palette tags (c :: rest) := by
  intro fuel
  cases fuel with
  | zero => rfl
  | succ fuel =>
      rw [visibleFrom, hnone]
      dsimp only
      split
      · exact h fuel
      · rw [Option.isSome_map]
        exact h fuel

theorem Shows.slashes {tags : List OpenTag} (n : Nat) {c : CodePoint} {rest : Text} (hc : c ≠ '\\')
    (hnone : bracketed? (c :: rest) = none) (h : Shows palette tags rest) :
    Shows palette tags (List.replicate n (.char '\\') ++ c :: rest) := by
  have hhead : (c :: rest).head? ≠ some (.char '\\') := by simpa using hc
  induction n with
  | zero =>
      have hdrop := drop_slashes 0 hhead
      rw [List.replicate_zero, List.nil_append] at hdrop ⊢
      exact h.plain (by rw [hdrop, hnone])
  | succ n ih =>
      have hdrop := drop_slashes (n + 1) hhead
      rw [List.replicate_succ, List.cons_append] at hdrop ⊢
      exact ih.plain (by rw [hdrop, hnone])

def isPlain (text : Text) : Bool := text.all fun c => c ≠ '\\' && c ≠ '['

theorem isPlain_iff {text : Text} :
    isPlain text = true ↔ ∀ c ∈ text, c ≠ '\\' ∧ c ≠ '[' := by simp [isPlain]

theorem isPlain_cons_iff {c : CodePoint} {text : Text} :
    isPlain (c :: text) = true ↔ (c ≠ '\\' ∧ c ≠ '[') ∧ isPlain text = true := by
  simp [isPlain]

theorem Shows.append {tags : List OpenTag} {text rest : Text} (htext : isPlain text = true)
    (h : Shows palette tags rest) : Shows palette tags (text ++ rest) := by
  induction text with
  | nil => exact h
  | cons c text ih =>
      obtain ⟨⟨hslash, hopen⟩, htext⟩ := isPlain_cons_iff.mp htext
      exact (ih htext).slashes 0 hslash (bracketed?_cons_of_ne hopen _)

theorem isSome_visibleFrom_tag (fuel : Nat) (tags : List OpenTag) (n : Nat)
    {text tag behind : Text} (h : bracketed? text = some (tag, behind)) :
    (visibleFrom palette (fuel + 1) tags (List.replicate n (.char '\\') ++ text)).isSome =
      if n % 2 = 1 then (visibleFrom palette fuel tags behind).isSome
      else ((afterTag palette tags tag).bind fun after =>
        visibleFrom palette fuel after behind).isSome := by
  have hhead := head?_ne_of_bracketed? h
  have hslashes := slashes_append n hhead
  have hdrop := drop_slashes n hhead
  cases hcons : List.replicate n (.char '\\') ++ text with
  | nil =>
      obtain ⟨-, rfl⟩ := List.append_eq_nil_iff.mp hcons
      simp [bracketed?] at h
  | cons c rest =>
      rw [hcons] at hslashes hdrop
      rw [visibleFrom, hdrop, h, hslashes]
      simp only [List.length_replicate]
      split
      · rw [Option.isSome_map]
      · cases afterTag palette tags tag with
        | none => rfl
        | some after => simp

theorem Shows.plainTag {tags : List OpenTag} {n : Nat} (hn : n % 2 = 1) {text tag behind : Text}
    (hlooks : bracketed? text = some (tag, behind)) (h : Shows palette tags behind) :
    Shows palette tags (List.replicate n (.char '\\') ++ text) := by
  intro fuel
  cases fuel with
  | zero => rfl
  | succ fuel =>
      rw [isSome_visibleFrom_tag fuel tags n hlooks, if_pos hn]
      exact h fuel

theorem Shows.activeTag {tags after : List OpenTag} {n : Nat} (hn : n % 2 = 0)
    {text tag behind : Text} (hlooks : bracketed? text = some (tag, behind))
    (hafter : afterTag palette tags tag = some after) (h : Shows palette after behind) :
    Shows palette tags (List.replicate n (.char '\\') ++ text) := by
  intro fuel
  cases fuel with
  | zero => rfl
  | succ fuel =>
      rw [isSome_visibleFrom_tag fuel tags n hlooks, if_neg (by omega), hafter]
      exact h fuel

theorem Shows.tag {tags after : List OpenTag} {text tag behind : Text}
    (hlooks : bracketed? text = some (tag, behind))
    (hafter : afterTag palette tags tag = some after)
    (h : Shows palette after behind) : Shows palette tags text :=
  .activeTag (n := 0) rfl hlooks hafter h

/-- What may stand behind an escaped text so that both show something: it does not go on with a tag
that is not yet closed. -/
structure Follows (palette : Palette) (tags : List OpenTag) (tail : Text) : Prop where
  head : ∀ c ∈ tail.head?, startsTag c = false
  noClose : NoClose tail
  shows : ∀ n, Shows palette tags (List.replicate n (.char '\\') ++ tail)

theorem Escaped.noClose {text written tail : Text} (h : Escaped text written) (htext : NoClose text)
    (htail : NoClose tail) : NoClose (written ++ tail) := by
  induction h with
  | slashes n => exact (noClose_append (isInside_of_mem_slashes n) tail).mpr htail
  | tag n looks rest ih =>
      rw [List.append_assoc, noClose_append (isInside_of_mem_slashes _)]
      exact noClose_open _
  | @plain c text written n slash looks rest ih =>
      rw [noClose_append (isInside_of_mem_slashes n)] at htext
      rw [List.append_assoc, noClose_append (isInside_of_mem_slashes n), List.cons_append]
      by_cases hopen : c = .char '['
      · rw [hopen]
        exact noClose_open _
      · have hinside : isInside c = true := by simp [isInside, hopen, ne_of_noClose_cons htext]
        rw [noClose_cons hinside] at htext ⊢
        exact ih htext

theorem Escaped.bracketed?_eq_none {c : CodePoint} {text written tail : Text}
    (h : Escaped text written) (hlooks : bracketed? (c :: text) = none)
    (hhead : ∀ d ∈ tail.head?, startsTag d = false) (htail : NoClose tail) :
    bracketed? (c :: (written ++ tail)) = none := by
  by_cases hopen : c = '['
  · subst hopen
    have hslash (rest : Text) : bracketed? (.char '[' :: .char '\\' :: rest) = none :=
      bracketed?_of_not_startsTag rfl rest
    cases h with
    | slashes n =>
        cases n with
        | zero =>
            cases tail with
            | nil => rfl
            | cons d rest => exact bracketed?_of_not_startsTag (hhead d rfl) rest
        | succ n => exact hslash _
    | tag n looks rest => exact hslash _
    | @plain d text written n slash looks rest =>
        cases n with
        | zero =>
            cases hstarts : startsTag d with
            | true =>
                have hclose := rest.noClose (noClose_of_bracketed? hstarts hlooks) htail
                exact bracketed?_of_noClose d hclose
            | false => exact bracketed?_of_not_startsTag hstarts _
        | succ n => exact hslash _
  · exact bracketed?_cons_of_ne hopen _

theorem Escaped.shows {tags : List OpenTag} {text written tail : Text} (h : Escaped text written)
    (htail : Follows palette tags tail) : Shows palette tags (written ++ tail) := by
  induction h with
  | slashes n => exact htail.shows n
  | tag n looks rest ih =>
      have hlooks := (bracketed?_eq_some looks).2
      rw [List.append_assoc, List.append_assoc]
      exact .plainTag (by omega) (hlooks _) ih
  | plain n slash looks rest ih =>
      have hlooks := rest.bracketed?_eq_none looks htail.head htail.noClose
      rw [List.append_assoc]
      exact ih.slashes n slash hlooks

theorem Follows.slashes {tags : List OpenTag} {tail : Text} (n : Nat)
    (h : Follows palette tags tail) :
    Follows palette tags (List.replicate n (.char '\\') ++ tail) where
  head := by
    cases n with
    | zero => exact h.head
    | succ n =>
        intro c hc
        obtain rfl : '\\' = c := Option.some.inj hc
        rfl
  noClose := (noClose_append (isInside_of_mem_slashes n) tail).mpr h.noClose
  shows := by
    intro m
    rw [← List.append_assoc, List.replicate_append_replicate]
    exact h.shows (m + n)

theorem shows_escape {tags : List OpenTag} {tail : Text} (htail : Follows palette tags tail)
    (text : Text) :
    Shows palette tags (escape text ++ tail) := by
  have hescaped := escaped_escapeTags text le_rfl
  rw [escape]
  split
  · rw [List.append_assoc]
    exact hescaped.shows (htail.slashes 1)
  · exact hescaped.shows htail

theorem shows_slashes (tags : List OpenTag) (n : Nat) :
    Shows palette tags (List.replicate n (.char '\\')) := by
  induction n with
  | zero => exact shows_nil tags
  | succ n ih =>
      have hhead : (([] : Text).head?) ≠ some (.char '\\') := by simp
      have hdrop := drop_slashes (n + 1) hhead
      rw [List.append_nil, List.replicate_succ] at hdrop
      rw [List.replicate_succ]
      exact ih.plain (by rw [hdrop]; rfl)

theorem follows_nil (tags : List OpenTag) : Follows palette tags [] where
  head := by simp
  noClose := noClose_nil
  shows := by
    intro n
    rw [List.append_nil]
    exact shows_slashes tags n

theorem shows_escaped (tags : List OpenTag) (text : Text) : Shows palette tags (escape text) := by
  rw [← List.append_nil (escape text)]
  exact shows_escape (follows_nil tags) text

theorem follows_tag {tags after : List OpenTag} {text tag : Text}
    (hlooks : bracketed? text = some (tag, [])) (hafter : afterTag palette tags tag = some after) :
    Follows palette tags text where
  head := by
    rw [(bracketed?_eq_some hlooks).1]
    intro c hc
    obtain rfl : '[' = c := Option.some.inj hc
    rfl
  noClose := by
    rw [(bracketed?_eq_some hlooks).1]
    exact noClose_open _
  shows := by
    intro n
    rcases Nat.mod_two_eq_zero_or_one n with heven | hodd
    · exact .activeTag heven hlooks hafter (shows_nil after)
    · exact .plainTag hodd hlooks (shows_nil tags)

theorem follows_append {tags : List OpenTag} {c : CodePoint} {text : Text}
    (hc : startsTag c = false) (htext : isPlain (c :: text) = true) {rest : Text}
    (hclose : NoClose (c :: text ++ rest)) (h : Shows palette tags rest) :
    Follows palette tags (c :: text ++ rest) where
  head := by
    intro d hd
    obtain rfl : c = d := Option.some.inj hd
    exact hc
  noClose := hclose
  shows := by
    intro n
    obtain ⟨⟨hslash, hopen⟩, hrest⟩ := isPlain_cons_iff.mp htext
    exact (h.append hrest).slashes n hslash (bracketed?_cons_of_ne hopen _)

def inStyle (style words : Text) : Text :=
  .char '[' :: style ++ .char ']' :: (words ++ .char '[' :: .char '/' :: style ++ [.char ']'])

structure IsStyle (style : Text) : Prop where
  starts : style.head?.any startsTag = true
  opens : style.head? ≠ some (.char '/')
  inside : style.all isInside = true
  plain : .char '=' ∉ style

instance (style : Text) : Decidable (IsStyle style) :=
  decidable_of_iff (style.head?.any startsTag = true ∧ style.head? ≠ some (.char '/') ∧
      style.all isInside = true ∧ .char '=' ∉ style)
    ⟨fun ⟨hstarts, hopens, hinside, hplain⟩ => ⟨hstarts, hopens, hinside, hplain⟩,
      fun h => ⟨h.starts, h.opens, h.inside, h.plain⟩⟩

theorem IsStyle.exists_afterTag {style : Text} (h : IsStyle style) (tags : List OpenTag) :
    ∃ after, afterTag palette tags style = some after ∧
      afterTag palette after (.char '/' :: style) = some tags := by
  have hslash : .char '=' ∉ .char '/' :: style := by simp [h.plain]
  refine ⟨{ name := palette.styleName style } :: tags, ?_, ?_⟩
  · rw [afterTag.eq_def, Text.cut_of_not_mem h.plain]
    split
    · next hname =>
        obtain rfl := (Prod.mk.inj hname).1
        exact absurd rfl h.opens
    · next hname =>
        cases hname
        rfl
  · rw [afterTag, Text.cut_of_not_mem hslash]
    simp [closeTag, OpenTag.closes]

theorem bracketed?_written {c : CodePoint} (hc : startsTag c = true) {inner : Text}
    (hinner : inner.all isInside = true) (rest : Text) :
    bracketed? (.char '[' :: c :: inner ++ .char ']' :: rest) = some (c :: inner, rest) := by
  have hinner := List.all_eq_true.mp hinner
  rw [List.cons_append, List.cons_append, bracketed?_open,
    List.dropWhile_append_of_pos hinner, List.takeWhile_append_of_pos hinner]
  simp [isInside, hc]

theorem IsStyle.shows {tags : List OpenTag} {style words rest : Text} (h : IsStyle style)
    (hwords : ∀ after, afterTag palette after (.char '/' :: style) = some tags →
      Shows palette after (words ++ (.char '[' :: .char '/' :: style ++ .char ']' :: rest))) :
    Shows palette tags (inStyle style words ++ rest) := by
  obtain ⟨after, hafter, hclose⟩ := @IsStyle.exists_afterTag palette _ h tags
  have htext : inStyle style words ++ rest =
      .char '[' :: style ++ .char ']' :: (words ++
        (.char '[' :: .char '/' :: style ++ .char ']' :: rest)) := by simp [inStyle]
  rw [htext]
  cases style with
  | nil => exact absurd h.starts (by simp)
  | cons c inner =>
      have hinner := h.inside
      rw [List.all_cons, Bool.and_eq_true] at hinner
      exact .tag (bracketed?_written (by simpa using h.starts) hinner.2 _) hafter
        (hwords after hclose)

theorem IsStyle.shows_plain {tags : List OpenTag} {style words rest : Text}
    (h : IsStyle style) (hwords : isPlain words = true)
    (hrest : Shows palette tags rest) : Shows palette tags (inStyle style words ++ rest) := by
  refine h.shows fun after hclose => Shows.append hwords ?_
  exact .tag (bracketed?_written (by decide) h.inside rest) hclose hrest

theorem IsStyle.shows_escape {tags : List OpenTag} {style words : Text} (h : IsStyle style)
    (hwords : isPlain words = true) (text : Text) :
    Shows palette tags (inStyle style (words ++ escape text)) := by
  rw [← List.append_nil (inStyle _ _)]
  refine h.shows fun after hclose => ?_
  rw [List.append_assoc]
  refine Shows.append hwords (Markup.shows_escape ?_ text)
  exact follows_tag (bracketed?_written (by decide) h.inside []) hclose

theorem shows_line (before style words after : Text) {line rest : Text}
    (hline : line = before ++ (inStyle style words ++ after))
    (hplain : isPlain (before ++ words ++ after) = true) (hstyle : IsStyle style)
    (hrest : Shows palette [] rest) : Shows palette [] (line ++ rest) := by
  simp only [isPlain, List.all_append, Bool.and_eq_true] at hplain
  obtain ⟨⟨hbefore, hwords⟩, hafter⟩ := hplain
  rw [hline, List.append_assoc, List.append_assoc]
  exact Shows.append hbefore (hstyle.shows_plain hwords (Shows.append hafter hrest))

theorem exists_afterTag {tag : Text} (h : tag.head? ≠ some (.char '/')) (tags : List OpenTag) :
    ∃ after, afterTag palette tags tag = some after := by
  have hname : ((Text.cut '=' tag).1).head? ≠ some (.char '/') := by
    cases tag with
    | nil => simp [Text.cut]
    | cons c rest =>
        rw [Text.cut]
        split
        · simp
        · exact h
  rw [afterTag.eq_def]
  split
  · next hslash =>
      rw [hslash] at hname
      exact absurd rfl hname
  · exact ⟨_, rfl⟩

theorem shows_of_no_closing (tags : List OpenTag) {markup : Text}
    (h : ¬[.char '[', .char '/'] <:+: markup) :
    Shows palette tags markup := by
  intro fuel
  induction fuel generalizing tags markup with
  | zero => rfl
  | succ fuel ih =>
      obtain ⟨n, rest, rfl, hhead⟩ := exists_slashes markup
      cases hlooks : bracketed? rest with
      | some found =>
          obtain ⟨tag, behind⟩ := found
          have hrest := (bracketed?_eq_some hlooks).1
          have hbehind : ¬[.char '[', .char '/'] <:+: behind := by
            refine fun hpart => h (hpart.trans (List.IsSuffix.isInfix ?_))
            exact ⟨List.replicate n (.char '\\') ++ .char '[' :: tag ++ [.char ']'], by
              simp [hrest]⟩
          have htag : tag.head? ≠ some (.char '/') := by
            intro hslash
            cases tag with
            | nil => cases hslash
            | cons c tag =>
                obtain rfl : c = '/' := Option.some.inj hslash
                exact h ⟨List.replicate n (.char '\\'), tag ++ .char ']' :: behind, by simp [hrest]⟩
          obtain ⟨after, hafter⟩ := exists_afterTag htag tags
          rw [isSome_visibleFrom_tag fuel tags n hlooks, hafter]
          split
          · exact ih tags hbehind
          · exact ih after hbehind
      | none =>
          have hdrop := drop_slashes n hhead
          cases hcons : List.replicate n (.char '\\') ++ rest with
          | nil => rfl
          | cons c others =>
              rw [hcons] at hdrop h
              have hothers : ¬[.char '[', .char '/'] <:+: others :=
                fun hpart => h (hpart.trans (List.suffix_cons c others).isInfix)
              rw [visibleFrom, hdrop, hlooks]
              dsimp only
              split
              · exact ih tags hothers
              · rw [Option.isSome_map]
                exact ih tags hothers

end Clippings.Markup
