import Clippings.Pattern.Matcher

namespace Clippings.Pattern

namespace Place

/-- `stop` lies behind some characters that follow `start`, whatever the groups hold. -/
structure Takes (start : Place) (taken : Text) (stop : Place) : Prop where
  before : stop.before = taken.reverse ++ start.before
  after : start.after = taken ++ stop.after
  position : stop.position = start.position + taken.length

theorem takes_nil (place : Place) (captures : List Capture) :
    place.Takes [] { place with captures } := ⟨rfl, rfl, rfl⟩

theorem Takes.trans {start middle stop : Place} {first second : Text}
    (hfirst : start.Takes first middle) (hsecond : middle.Takes second stop) :
    start.Takes (first ++ second) stop where
  before := by rw [hsecond.before, hfirst.before, List.reverse_append, List.append_assoc]
  after := by rw [hfirst.after, hsecond.after, List.append_assoc]
  position := by rw [hsecond.position, hfirst.position, List.length_append, Nat.add_assoc]

theorem takes_of_next? {place next : Place} {c : CodePoint} (h : place.next? = some (c, next)) :
    place.Takes [c] next := by
  cases hafter : place.after with
  | nil => simp [next?, hafter] at h
  | cons d rest =>
      simp only [next?, hafter, Option.some.injEq, Prod.mk.injEq] at h
      obtain ⟨rfl, rfl⟩ := h
      exact ⟨rfl, hafter, rfl⟩

def LeadsTo (start stop : Place) : Prop := ∃ taken, start.Takes taken stop

theorem leadsTo_with (place : Place) (captures : List Capture) :
    place.LeadsTo { place with captures } := ⟨[], place.takes_nil captures⟩

theorem LeadsTo.refl (place : Place) : place.LeadsTo place := place.leadsTo_with place.captures

theorem LeadsTo.trans {start middle stop : Place} (hfirst : start.LeadsTo middle)
    (hsecond : middle.LeadsTo stop) : start.LeadsTo stop := by
  obtain ⟨first, hfirst⟩ := hfirst
  obtain ⟨second, hsecond⟩ := hsecond
  exact ⟨first ++ second, hfirst.trans hsecond⟩

theorem leadsTo_of_next? {place next : Place} {c : CodePoint} (h : place.next? = some (c, next)) :
    place.LeadsTo next := ⟨[c], takes_of_next? h⟩

theorem leadsTo_of_skip? {reading : Reading} {text : Text} {place stop : Place}
    (h : place.skip? reading text = some stop) : place.LeadsTo stop := by
  induction text generalizing place with
  | nil =>
      obtain rfl := Option.some.inj h
      exact .refl place
  | cons c rest ih =>
      rw [skip?] at h
      split at h
      · cases h
      · next d next hnext =>
        obtain ⟨-, hrest⟩ := Option.ite_none_right_eq_some.mp h
        exact (leadsTo_of_next? hnext).trans (ih hrest)

end Place

def GoesAhead (step : Step) : Prop :=
  ∀ ⦃place : Place⦄ ⦃follow : Follow⦄ ⦃result : Place⦄, step place follow = some result →
    ∃ stop, place.LeadsTo stop ∧ follow stop = some result

namespace GoesAhead

variable {step : Step}

theorem leadsTo (h : GoesAhead step) {place stop : Place} (hstop : step place some = some stop) :
    place.LeadsTo stop := by
  obtain ⟨reached, hlead, hreached⟩ := h hstop
  obtain rfl := Option.some.inj hreached
  exact hlead

theorem andThen {next : Step} (h : GoesAhead step) (hnext : GoesAhead next) :
    GoesAhead fun place follow => step place fun place => next place follow := by
  intro place follow result hresult
  obtain ⟨middle, hmiddle, hresult⟩ := h hresult
  obtain ⟨stop, hstop, hresult⟩ := hnext hresult
  exact ⟨stop, hmiddle.trans hstop, hresult⟩

theorem times (h : GoesAhead step) (n : Nat) : GoesAhead (times step n) := by
  induction n with
  | zero => exact fun place _ _ hresult => ⟨place, .refl place, hresult⟩
  | succ n ih => exact h.andThen ih

theorem asManyAsPossible (h : GoesAhead step) (fuel : Nat) (left last : Option Nat) :
    GoesAhead (asManyAsPossible step fuel left last) := by
  induction fuel generalizing left last with
  | zero => exact fun place _ _ hresult => ⟨place, .refl place, hresult⟩
  | succ fuel ih =>
      intro place follow result hresult
      rw [Pattern.asManyAsPossible] at hresult
      split at hresult
      · split at hresult
        · next found hfound =>
          obtain rfl := Option.some.inj hresult
          exact h.andThen (ih (left.map (· - 1)) (some place.position)) hfound
        · exact ⟨place, .refl place, hresult⟩
      · exact ⟨place, .refl place, hresult⟩

theorem asFewAsPossible (h : GoesAhead step) (fuel : Nat) (left last : Option Nat) :
    GoesAhead (asFewAsPossible step fuel left last) := by
  induction fuel generalizing left last with
  | zero => exact fun place _ _ hresult => ⟨place, .refl place, hresult⟩
  | succ fuel ih =>
      intro place follow result hresult
      rw [Pattern.asFewAsPossible] at hresult
      split at hresult
      · next found hfound =>
        obtain rfl := Option.some.inj hresult
        exact ⟨place, .refl place, hfound⟩
      · split at hresult
        · exact h.andThen (ih (left.map (· - 1)) (some place.position)) hresult
        · cases hresult

theorem leadsTo_allThatMatch (h : GoesAhead step) (fuel : Nat) (left last : Option Nat)
    (place : Place) : place.LeadsTo (allThatMatch step fuel left last place) := by
  induction fuel generalizing left last place with
  | zero => exact .refl place
  | succ fuel ih =>
      rw [allThatMatch]
      split
      · split
        · next next hnext => exact (h.leadsTo hnext).trans (ih _ _ next)
        · exact .refl place
      · exact .refl place

theorem leadsTo_of_exactly (h : GoesAhead step) {n : Nat} {place stop : Place}
    (hstop : exactly step n place = some stop) : place.LeadsTo stop := by
  induction n generalizing place with
  | zero =>
      obtain rfl := Option.some.inj hstop
      exact .refl place
  | succ n ih =>
      rw [exactly] at hstop
      split at hstop
      · next next hnext => exact (h.leadsTo hnext).trans (ih hstop)
      · cases hstop

end GoesAhead

theorem goesAhead_char (test : CodePoint → Bool) :
    GoesAhead fun place follow =>
      match place.next? with
      | some (c, next) => if test c then follow next else none
      | none => none := by
  intro place follow result hresult
  simp only at hresult
  split at hresult
  · next c next hnext =>
    obtain ⟨-, hresult⟩ := Option.ite_none_right_eq_some.mp hresult
    exact ⟨next, Place.leadsTo_of_next? hnext, hresult⟩
  · cases hresult

theorem goesAhead_look (found : Option Place) {negated : Bool} {place result : Place}
    {follow : Follow} (h :
    (match found with
      | some stop => if negated then none else follow { place with captures := stop.captures }
      | none => if negated then follow place else none) = some result) :
    ∃ stop, place.LeadsTo stop ∧ follow stop = some result := by
  cases found with
  | some stop =>
      cases negated with
      | true => cases h
      | false => exact ⟨_, place.leadsTo_with stop.captures, h⟩
  | none =>
      cases negated with
      | true => exact ⟨place, .refl place, h⟩
      | false => cases h

theorem goesAhead_run (node : Node) : GoesAhead node.run := by
  induction node with
  | empty => exact fun place _ _ hresult => ⟨place, .refl place, hresult⟩
  | any lineFeedToo => exact goesAhead_char fun c => lineFeedToo || c ≠ '\n'
  | one reading cls => exact goesAhead_char (cls.has reading)
  | anchor kind =>
      intro place follow result hresult
      rw [Node.run] at hresult
      split at hresult
      · exact ⟨place, .refl place, hresult⟩
      · cases hresult
  | seq first second ihfirst ihsecond => exact ihfirst.andThen ihsecond
  | alt first second ihfirst ihsecond =>
      intro place follow result hresult
      rw [Node.run] at hresult
      split at hresult
      · next found hfound =>
        obtain rfl := Option.some.inj hresult
        exact ihfirst hfound
      · exact ihsecond hresult
  | repeated least most greed body ih =>
      intro place follow result hresult
      cases greed with
      | greedy =>
          rw [Node.run] at hresult
          obtain ⟨middle, hmiddle, hresult⟩ := ih.times least hresult
          obtain ⟨stop, hstop, hresult⟩ := ih.asManyAsPossible _ _ _ hresult
          exact ⟨stop, hmiddle.trans hstop, hresult⟩
      | lazy =>
          rw [Node.run] at hresult
          obtain ⟨middle, hmiddle, hresult⟩ := ih.times least hresult
          obtain ⟨stop, hstop, hresult⟩ := ih.asFewAsPossible _ _ _ hresult
          exact ⟨stop, hmiddle.trans hstop, hresult⟩
      | possessive =>
          rw [Node.run] at hresult
          split at hresult
          · next middle hmiddle =>
            exact ⟨_, (ih.leadsTo_of_exactly hmiddle).trans (ih.leadsTo_allThatMatch _ _ _ middle),
              hresult⟩
          · cases hresult
  | group index body ih =>
      intro place follow result hresult
      rw [Node.run] at hresult
      obtain ⟨stop, hstop, hresult⟩ := ih hresult
      exact ⟨_, hstop.trans (stop.leadsTo_with _), hresult⟩
  | atomic body ih =>
      intro place follow result hresult
      rw [Node.run] at hresult
      split at hresult
      · next stop hstop => exact ⟨stop, ih.leadsTo hstop, hresult⟩
      · cases hresult
  | lookAhead negated body ih =>
      intro place follow result hresult
      rw [Node.run] at hresult
      exact goesAhead_look _ hresult
  | lookBehind negated width body ih =>
      intro place follow result hresult
      rw [Node.run] at hresult
      split at hresult
      · exact goesAhead_look none hresult
      · exact goesAhead_look _ hresult
  | same reading index =>
      intro place follow result hresult
      rw [Node.run] at hresult
      split at hresult
      · split at hresult
        · next next hnext => exact ⟨next, Place.leadsTo_of_skip? hnext, hresult⟩
        · cases hresult
      · cases hresult
  | ifGroup index yes no ihyes ihno =>
      intro place follow result hresult
      rw [Node.run] at hresult
      split at hresult
      · exact ihyes hresult
      · exact ihno hresult

theorem Match.text_of_takes {found : Match} {taken : Text}
    (h : found.start.Takes taken found.stop) : found.text = taken := by
  rw [Match.text, h.position, Nat.add_sub_cancel_left, h.before,
    List.take_left' (List.length_reverse ..), List.reverse_reverse]

/-- A match lies ahead of a place, and it is not empty there if empty matches are not wanted. -/
structure Match.IsAhead (found : Match) (emptyToo : Bool) (place : Place) : Prop where
  start : place.LeadsTo found.start
  stop : found.start.LeadsTo found.stop
  wanted : emptyToo = false → found.start.position = place.position →
    found.stop.position ≠ place.position

variable {pattern : Pattern} {emptyToo : Bool} {place : Place} {found : Match}

theorem isAhead_of_matchAt? (h : matchAt? pattern emptyToo place = some found) :
    found.IsAhead emptyToo place := by
  obtain ⟨stop, hstop, rfl⟩ := Option.map_eq_some_iff.mp h
  obtain ⟨reached, hlead, hreached⟩ := goesAhead_run pattern.body hstop
  split at hreached
  · next hwanted =>
    obtain rfl := Option.some.inj hreached
    refine ⟨.refl place, (place.leadsTo_with []).trans hlead, ?_⟩
    rintro rfl -
    simpa using hwanted
  · cases hreached

theorem isAhead_of_findFrom? {text : Text}
    (h : findFrom? pattern text emptyToo place = some found) : found.IsAhead emptyToo place := by
  induction text generalizing emptyToo place with
  | nil => exact isAhead_of_matchAt? h
  | cons c rest ih =>
      rw [findFrom?] at h
      split at h
      · next first hfirst =>
        obtain rfl := Option.some.inj h
        exact isAhead_of_matchAt? hfirst
      · split at h
        · next d next hnext =>
          have htail := ih h
          refine ⟨(Place.leadsTo_of_next? hnext).trans htail.start, htail.stop,
            fun _ hposition => ?_⟩
          -- The match starts behind the next character, so not at the place itself.
          obtain ⟨skipped, hskipped⟩ := htail.start
          have hmoved := hskipped.position
          rw [(Place.takes_of_next? hnext).position, List.length_singleton] at hmoved
          omega
        · cases h

/-- A text in which every match ahead of a place is replaced: the characters up to the first match
stay, and replacing goes on behind it, where an empty match is not wanted after an empty one. -/
inductive Replaces (pattern : Pattern) (expand : Match → Text) : Bool → Place → Text → Prop
  | rest {emptyToo : Bool} {place : Place} :
      findFrom? pattern place.after emptyToo place = none →
        Replaces pattern expand emptyToo place place.after
  | next {emptyToo : Bool} {place : Place} {found : Match} {skipped new : Text} :
      findFrom? pattern place.after emptyToo place = some found →
      place.Takes skipped found.start →
      Replaces pattern expand (found.stop.position ≠ found.start.position) found.stop new →
        Replaces pattern expand emptyToo place (skipped ++ expand found ++ new)

/-- How much a round of replacing can still use up: each character behind the place counts twice,
and a first empty match once. -/
def workLeft (emptyToo : Bool) (place : Place) : Nat := 2 * place.after.length + emptyToo.toNat

theorem workLeft_lt (h : found.IsAhead emptyToo place) :
    workLeft (found.stop.position ≠ found.start.position) found.stop < workLeft emptyToo place := by
  obtain ⟨skipped, hskipped⟩ := h.start
  obtain ⟨taken, htaken⟩ := h.stop
  have hlength : place.after.length = skipped.length +
    (taken.length + found.stop.after.length) := by
    rw [hskipped.after, htaken.after, List.length_append, List.length_append]
  have hstart := hskipped.position
  have hstop := htaken.position
  have hwanted := h.wanted
  simp only [workLeft]
  by_cases hmoved : found.stop.position = found.start.position
  · -- After an empty match the next one must take a character, or start behind one.
    have htakenNil : taken.length = 0 := by omega
    cases emptyToo with
    | true => simp [hmoved]; omega
    | false =>
        have hskippedPos : found.start.position ≠ place.position := fun hsame =>
          hwanted rfl hsame (hmoved.trans hsame)
        simp [hmoved]
        omega
  · have htakenPos : 0 < taken.length := by omega
    have := Bool.toNat_le emptyToo
    simp [hmoved]
    omega

theorem replaces_replaceFrom {expand : Match → Text} {fuel : Nat}
    (hfuel : workLeft emptyToo place < fuel) :
    Replaces pattern expand emptyToo place (replaceFrom pattern expand fuel emptyToo place) := by
  induction fuel generalizing emptyToo place with
  | zero => omega
  | succ fuel ih =>
      rw [replaceFrom]
      split
      · next hnone => exact .rest hnone
      · next found hfound =>
        have hahead := isAhead_of_findFrom? hfound
        obtain ⟨skipped, hskipped⟩ := hahead.start
        have htake : place.after.take (found.start.position - place.position) = skipped := by
          rw [hskipped.position, Nat.add_sub_cancel_left, hskipped.after, List.take_left]
        rw [htake]
        exact .next hfound hskipped (ih (by have := workLeft_lt hahead; omega))

theorem replaces_replaceAll (pattern : Pattern) (expand : Match → Text) (text : Text) :
    Replaces pattern expand true (.start text) (replaceAll pattern expand text) := by
  apply replaces_replaceFrom
  show 2 * text.length + 1 < _
  omega

theorem Replaces.eq_after {new : Text} (h : Replaces pattern Match.text emptyToo place new) :
    new = place.after := by
  induction h with
  | rest => rfl
  | next hfound hskipped _ ih =>
      obtain ⟨taken, htaken⟩ := (isAhead_of_findFrom? hfound).stop
      rw [ih, Match.text_of_takes htaken, hskipped.after, htaken.after, List.append_assoc]

end Clippings.Pattern
