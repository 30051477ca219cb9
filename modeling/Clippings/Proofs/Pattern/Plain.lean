import Clippings.Pattern.Matcher
import Clippings.Proofs.Text.Replacing
/-!
Patterns without special characters. Such a pattern is read as the sequence of its characters, and
it matches where its text stands and nowhere else.
-/

namespace Clippings.Pattern

/-- The characters that stand for something else than themselves in a pattern. -/
def specialCharacters : Text := ".^$*+?\x7b\x7d[]\\|()"

def IsPlain (text : Text) : Prop := ∀ c ∈ text, c ∉ specialCharacters

instance (text : Text) : Decidable (IsPlain text) :=
  List.decidableBAll (· ∉ specialCharacters) text

theorem IsPlain.of_cons {c : CodePoint} {rest : Text} (hplain : IsPlain (c :: rest)) :
    IsPlain rest :=
  fun d hd => hplain d (List.mem_cons_of_mem c hd)

theorem IsPlain.ne_backslash {text : Text} (hplain : IsPlain text) : text ≠ [.char '\\'] := by
  rintro rfl
  exact hplain '\\' (by simp) (by decide)

def plainItem (c : CodePoint) : Item := { node := oneCode {} c.toNat }

def plainNode (text : Text) : Node := sequence (text.map plainItem).reverse

def plain (text : Text) : Pattern := ⟨plainNode text, 0⟩

theorem plainNode_cons (c : CodePoint) (rest : Text) :
    plainNode (c :: rest) = match plainNode rest with
      | .empty => oneCode {} c.toNat
      | node => .seq (oneCode {} c.toNat) node := by
  simp only [plainNode, sequence, List.map_cons, List.foldl_reverse, List.foldr_cons]
  rfl

theorem run_plainNode_cons (c : CodePoint) (rest : Text) (place : Place) (follow : Follow) :
    (plainNode (c :: rest)).run place follow =
      (oneCode {} c.toNat).run place fun next => (plainNode rest).run next follow := by
  rw [plainNode_cons]
  split
  · next hrest =>
    rw [hrest]
    rfl
  · rfl

theorem bind_of_ok {α β : Type} {x : Reader α} {next : α → Reader β} {s after : ReaderState} {a : α}
    (h : x s = .ok (a, after)) : (x >>= next) s = next a after := by
  show (x s >>= fun step => next step.1 step.2) = _
  rw [h]
  rfl

theorem get_ok (s : ReaderState) : (get : Reader ReaderState) s = .ok (s, s) := rfl

theorem moveTo_ok {rest : Text} (hrest : rest ≠ [.char '\\']) (position : Nat) (s : ReaderState) :
    moveTo rest position s = .ok ((), { s with rest, position }) := by
  rw [moveTo, if_neg hrest]
  rfl

theorem headToken?_cons {c : CodePoint} (hc : c ≠ '\\') (rest : Text) :
    headToken? (c :: rest) = some (.char c) := by
  unfold headToken?
  split
  · next h => cases h
  · next h => exact absurd (List.cons.inj h).1 hc
  · next h => rw [(List.cons.inj h).1]

theorem peek_cons {s : ReaderState} {c : CodePoint} {rest : Text} (hs : s.rest = c :: rest)
    (hc : c ≠ '\\') : peek s = .ok (some (.char c), s) := by
  show Except.ok (headToken? s.rest, s) = _
  rw [hs, headToken?_cons hc]

theorem peek_nil {s : ReaderState} (hs : s.rest = []) : peek s = .ok (none, s) := by
  show Except.ok (headToken? s.rest, s) = _
  rw [hs]
  rfl

theorem take_cons {s : ReaderState} {c : CodePoint} {rest : Text} (hs : s.rest = c :: rest)
    (hc : c ≠ '\\') (hrest : rest ≠ [.char '\\']) :
    take s = .ok (some (.char c), { s with rest, position := s.position + 1 }) := by
  rw [take, bind_of_ok (get_ok s), hs, headToken?_cons hc]
  exact bind_of_ok (moveTo_ok hrest _ _)

theorem accept_nil {s : ReaderState} (hs : s.rest = []) (c : CodePoint) :
    accept c s = .ok (false, s) := by
  rw [accept, bind_of_ok (peek_nil hs)]
  rfl

theorem match_token {α : Type} {c : CodePoint} (hbar : c ≠ '|') (hclosing : c ≠ ')')
    (none bar closing : α) (escape char : CodePoint → α) :
    (match some (Token.char c) with
      | Option.none => none
      | some (.char '|') => bar
      | some (.char ')') => closing
      | some (.escape c) => escape c
      | some (.char c) => char c) = char c := by
  split <;> simp_all

theorem items_cons {s : ReaderState} {c : CodePoint} {rest : Text} (hs : s.rest = c :: rest)
    (hplain : IsPlain (c :: rest)) (fuel : Nat) (first : Bool) (before : List Item) :
    items (fuel + 1) {} first before s =
      items fuel {} first (plainItem c :: before)
        { s with rest, position := s.position + 1 } := by
  have hne : ∀ d ∈ specialCharacters, c ≠ d := by
    rintro d hd rfl
    exact hplain c (by simp) hd
  have hbackslash := hne '\\' (by decide)
  have hrepeat : ¬ (c = '?' || c = '*' || c = '+' || c = '\x7b') = true := by
    simp [hne '?' (by decide), hne '*' (by decide), hne '+' (by decide), hne '\x7b' (by decide)]
  rw [items, bind_of_ok (peek_cons hs hbackslash)]
  -- The sequence goes on, since the character is none of those that end one.
  refine (congrFun (match_token (hne '|' (by decide)) (hne ')' (by decide)) _ _ _ _ _) s).trans ?_
  rw [bind_of_ok (take_cons hs hbackslash hplain.of_cons.ne_backslash),
    if_neg (by simp), if_neg (by simp), if_neg (hne '[' (by decide)), if_neg hrepeat,
    if_neg (hne '.' (by decide)), if_neg (hne '^' (by decide)), if_neg (hne '$' (by decide)),
    if_neg (hne '(' (by decide))]
  rfl

theorem items_plain {text : Text} (hplain : IsPlain text) {s : ReaderState} (hs : s.rest = text)
    {fuel : Nat} (hfuel : text.length < fuel) (first : Bool) (before : List Item) :
    items fuel {} first before s =
      .ok (sequence ((text.map plainItem).reverse ++ before),
        { s with rest := [], position := s.position + text.length }) := by
  induction text generalizing s fuel before with
  | nil =>
      obtain ⟨fuel, rfl⟩ := Nat.exists_eq_add_of_lt hfuel
      rw [items, bind_of_ok (peek_nil hs)]
      cases s with
      | mk =>
        cases hs
        rfl
  | cons c rest ih =>
      obtain ⟨fuel, rfl⟩ := Nat.exists_eq_add_of_lt hfuel
      rw [items_cons hs hplain, ih hplain.of_cons rfl (by simp only [List.length_cons]; omega)]
      simp [Nat.add_assoc, Nat.add_comm 1]

theorem alternatives_plain {text : Text} (hplain : IsPlain text) {fuel : Nat}
    (hfuel : text.length < fuel) (runtime : Runtime) :
    alternatives (fuel + 1) {} true { rest := text, position := 0, runtime } =
      .ok (plainNode text, { rest := [], position := text.length, runtime }) := by
  rw [alternatives, bind_of_ok (items_plain hplain rfl hfuel true []),
    bind_of_ok (accept_nil rfl _), if_neg Bool.false_ne_true, List.append_nil, Nat.zero_add]
  rfl

theorem check_plainNode (template : Bool) (groups : Nat → Nat × Nat) (text : Text) :
    (plainNode text).check template groups = .ok () := by
  induction text with
  | nil => rfl
  | cons c rest ih =>
      rw [plainNode_cons]
      split
      · rfl
      · exact ih

theorem parse_plain (runtime : Runtime) {text : Text} (hplain : IsPlain text) :
    parse runtime text = .ok (plain text) := by
  have hfuel : text.length < 3 * text.length + 2 := by omega
  have hwhole : wholePattern { rest := text, position := 0, runtime } =
      .ok (plain text, { rest := [], position := text.length, runtime }) := by
    rw [wholePattern, bind_of_ok (get_ok _), bind_of_ok (moveTo_ok hplain.ne_backslash _ _),
      bind_of_ok (alternatives_plain hplain hfuel runtime), bind_of_ok (get_ok _)]
    simp only
    rw [if_neg (by decide), bind_of_ok (peek_nil rfl)]
    simp only [Option.isSome_none, Bool.false_eq_true, if_false, List.find?_nil, check_plainNode]
    rfl
  simp [parse, StateT.run, hwhole, Except.map]

theorem has_oneCode (c d : CodePoint) :
    CharClass.has {} { items := [.code c.toNat] } d = decide (c = d) := by
  have hnat : d.toNat = c.toNat ↔ c = d := by
    rw [CodePoint.toNat_inj, eq_comm]
  simp [CharClass.has, ClassItem.has, hnat]

namespace Place

variable {place : Place}

theorem next?_of_nil (hafter : place.after = []) : place.next? = none := by
  rw [next?, hafter]

theorem next?_of_cons {c : CodePoint} {rest : Text} (hafter : place.after = c :: rest) :
    ∃ next, place.next? = some (c, next) ∧ next.after = rest ∧
      next.position = place.position + 1 := by
  rw [next?, hafter]
  exact ⟨_, rfl, rfl, rfl⟩

theorem skip?_cons_of_none (hnext : place.next? = none) (c : CodePoint) (text : Text) :
    place.skip? {} (c :: text) = none := by
  rw [skip?, hnext]

theorem skip?_cons_of_some {d : CodePoint} {next : Place} (hnext : place.next? = some (d, next))
    (c : CodePoint) (text : Text) :
    place.skip? {} (c :: text) = if c = d then next.skip? {} text else none := by
  rw [skip?, hnext]
  simp

theorem skip?_of_append {text rest : Text} (hafter : place.after = text ++ rest) :
    ∃ stop, place.skip? {} text = some stop ∧ stop.after = rest ∧
      stop.position = place.position + text.length := by
  induction text generalizing place with
  | nil => exact ⟨place, rfl, hafter, rfl⟩
  | cons c text ih =>
      obtain ⟨next, hnext, hnextAfter, hnextPosition⟩ := next?_of_cons hafter
      obtain ⟨stop, hstop, hrest, hposition⟩ := ih hnextAfter
      refine ⟨stop, ?_, hrest, ?_⟩
      · rw [skip?_cons_of_some hnext, if_pos rfl, hstop]
      · rw [hposition, hnextPosition, List.length_cons, Nat.add_assoc, Nat.add_comm 1]

theorem skip?_eq_none {text : Text} (h : ¬ text <+: place.after) :
    place.skip? {} text = none := by
  induction text generalizing place with
  | nil => exact absurd List.nil_prefix h
  | cons c text ih =>
      cases hafter : place.after with
      | nil => exact skip?_cons_of_none (next?_of_nil hafter) c text
      | cons d rest =>
          obtain ⟨next, hnext, hnextAfter, -⟩ := next?_of_cons hafter
          rw [skip?_cons_of_some hnext]
          split
          · next hc =>
            refine ih fun hprefix => h ?_
            rw [hafter, List.cons_prefix_cons]
            exact ⟨hc, hnextAfter ▸ hprefix⟩
          · rfl

end Place

theorem run_plainNode (text : Text) (place : Place) (follow : Follow) :
    (plainNode text).run place follow = (place.skip? {} text).bind follow := by
  induction text generalizing place with
  | nil => rfl
  | cons c text ih =>
      rw [run_plainNode_cons, oneCode, Node.run]
      cases hnext : place.next? with
      | none => rw [Place.skip?_cons_of_none hnext, Option.bind_none]
      | some step =>
          rw [Place.skip?_cons_of_some hnext]
          simp only [Flags.reading, has_oneCode, decide_eq_true_eq, ih]
          split <;> rfl

variable {part : Text} {place : Place}

theorem matchAt?_plain_of_append (hpart : part ≠ []) {rest : Text}
    (hafter : place.after = part ++ rest) (emptyToo : Bool) :
    ∃ found, matchAt? (plain part) emptyToo place = some found ∧ found.start = place ∧
      found.stop.after = rest := by
  obtain ⟨stop, hstop, hrest, hposition⟩ :
      ∃ stop, Place.skip? {} part { place with captures := [] } = some stop ∧ stop.after = rest ∧
        stop.position = place.position + part.length := Place.skip?_of_append hafter
  have hmoved : stop.position ≠ place.position := by
    have := List.length_pos_iff.mpr hpart
    omega
  refine ⟨⟨place, stop⟩, ?_, rfl, hrest⟩
  simp [matchAt?, plain, run_plainNode, hstop, hmoved]

theorem matchAt?_plain_eq_none (h : ¬ part <+: place.after) (emptyToo : Bool) :
    matchAt? (plain part) emptyToo place = none := by
  have hskip : Place.skip? {} part { place with captures := [] } = none :=
    Place.skip?_eq_none h
  simp [matchAt?, plain, run_plainNode, hskip]

theorem findFrom?_plain_of_firstAt (hpart : part ≠ []) {skipped rest text : Text}
    (h : Text.FirstAt part skipped rest text) (hafter : place.after = text) (emptyToo : Bool) :
    ∃ found, findFrom? (plain part) text emptyToo place = some found ∧
      found.start.position = place.position + skipped.length ∧ found.stop.after = rest := by
  induction h generalizing place emptyToo with
  | here rest =>
      obtain ⟨found, hfound, hstart, hrest⟩ := matchAt?_plain_of_append hpart hafter emptyToo
      refine ⟨found, ?_, by rw [hstart]; rfl, hrest⟩
      cases part with
      | nil => exact absurd rfl hpart
      | cons c part => rw [List.cons_append, findFrom?, hfound]
  | there hprefix _ ih =>
      obtain ⟨next, hnext, hnextAfter, hnextPosition⟩ := Place.next?_of_cons hafter
      obtain ⟨found, hfound, hstart, hrest⟩ := ih hnextAfter true
      refine ⟨found, ?_, ?_, hrest⟩
      · rw [findFrom?, matchAt?_plain_eq_none (hafter ▸ hprefix), hnext]
        exact hfound
      · rw [hstart, hnextPosition, List.length_cons, Nat.add_assoc, Nat.add_comm 1]

theorem findFrom?_plain_eq_none {text : Text} (h : ¬ part <:+: text)
    (hafter : place.after = text) (emptyToo : Bool) :
    findFrom? (plain part) text emptyToo place = none := by
  have hmatch := matchAt?_plain_eq_none (fun hprefix => h (hafter ▸ hprefix.isInfix)) emptyToo
  induction text generalizing place emptyToo with
  | nil => rw [findFrom?, hmatch]
  | cons c text ih =>
      obtain ⟨next, hnext, hnextAfter, -⟩ := Place.next?_of_cons hafter
      have hrest : ¬ part <:+: text := fun hinfix => h (List.infix_cons hinfix)
      rw [findFrom?, hmatch, hnext]
      exact ih hrest hnextAfter true
        (matchAt?_plain_eq_none (fun hprefix => hrest (hnextAfter ▸ hprefix.isInfix)) true)

theorem replaceFrom_plain (hpart : part ≠ []) {expand : Match → Text} {new : Text}
    (hexpand : ∀ found, expand found = new) {fuel : Nat} (hfuel : place.after.length < fuel)
    (emptyToo : Bool) :
    replaceFrom (plain part) expand fuel emptyToo place = Text.replace part new place.after := by
  induction fuel generalizing place emptyToo with
  | zero => omega
  | succ fuel ih =>
      by_cases hinfix : part <:+: place.after
      · obtain ⟨skipped, rest, hfirst⟩ := Text.exists_firstAt hinfix
        obtain ⟨found, hfound, hstart, hrest⟩ :=
          findFrom?_plain_of_firstAt hpart hfirst rfl emptyToo
        -- An occurrence takes a character at least, so the rounds suffice.
        have hlength : found.stop.after.length < fuel := by
          have hsum := congrArg List.length hfirst.text_eq
          have := List.length_pos_iff.mpr hpart
          rw [List.length_append, List.length_append] at hsum
          rw [hrest]
          omega
        have hskipped : place.after.take (found.start.position - place.position) = skipped := by
          rw [hstart, Nat.add_sub_cancel_left, hfirst.text_eq, List.take_left]
        simp only [replaceFrom, hfound, hskipped, hexpand, ih hlength, hrest]
        rw [hfirst.replace_eq hpart, List.append_assoc]
      · rw [replaceFrom, findFrom?_plain_eq_none hinfix rfl, Text.replace_of_not_infix hinfix]

end Clippings.Pattern
