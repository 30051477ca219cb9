import Clippings.Note.Insertion
import Clippings.Proofs.Text.Cutting
import Mathlib.Data.List.TakeWhile

namespace Clippings.Note

def IsLineEnding (ending : Text) : Prop := ending = [.char '\n'] ∨ ending = [.char '\r', .char '\n']

def IsBlanks (blanks : Text) : Prop := ∀ c ∈ blanks, c = ' ' ∨ c = '\t'

theorem lineEnding?_eq_some_iff {text : Text} {length : Nat} :
    lineEnding? text = some length ↔
      ∃ ending rest, IsLineEnding ending ∧ text = ending ++ rest ∧ length = ending.length := by
  constructor
  · intro h
    unfold lineEnding? at h
    split at h
    · next rest => exact ⟨[.char '\n'], rest, .inl rfl, rfl, (Option.some.inj h).symm⟩
    · next rest => exact ⟨[.char '\r', .char '\n'], rest, .inr rfl, rfl, (Option.some.inj h).symm⟩
    · cases h
  · rintro ⟨ending, rest, rfl | rfl, rfl, rfl⟩
    · rfl
    · rfl

theorem opening?_eq_some_iff {text : Text} {length : Nat} :
    opening? text = some length ↔
      ∃ ending rest, IsLineEnding ending ∧
        text = .char '-' :: .char '-' :: .char '-' :: (ending ++ rest) ∧
        length = 3 + ending.length := by
  constructor
  · intro h
    unfold opening? at h
    split at h
    · next rest =>
      obtain ⟨inner, hinner, rfl⟩ := Option.map_eq_some_iff.mp h
      obtain ⟨ending, rest, hending, rfl, rfl⟩ := lineEnding?_eq_some_iff.mp hinner
      exact ⟨ending, rest, hending, rfl, rfl⟩
    · cases h
  · rintro ⟨ending, rest, hending, rfl, rfl⟩
    rw [opening?, lineEnding?_eq_some_iff.mpr ⟨ending, rest, hending, rfl, rfl⟩]
    rfl

theorem exists_blanks (rest : Text) :
    ∃ blanks tail, IsBlanks blanks ∧ rest = blanks ++ tail ∧
      rest.takeWhile (fun c => c = .char ' ' || c = .char '\t') = blanks := by
  refine ⟨rest.takeWhile (fun c => c = .char ' ' || c = .char '\t'),
    rest.dropWhile (fun c => c = ' ' || c = '\t'), ?_, ?_, rfl⟩
  · intro c hc
    simpa using List.mem_takeWhile_imp hc
  · exact List.takeWhile_append_dropWhile.symm

theorem takeWhile_blanks {blanks tail : Text} (hblanks : IsBlanks blanks)
    (htail : ∀ c, tail.head? = some c → ¬ (c = ' ' ∨ c = '\t')) :
    (blanks ++ tail).takeWhile (fun c => c = .char ' ' || c = .char '\t') = blanks := by
  rw [List.takeWhile_append_of_pos (fun c hc => by simpa using hblanks c hc)]
  cases tail with
  | nil => simp
  | cons c rest =>
      rw [List.takeWhile_cons_of_neg (by simpa using htail c rfl), List.append_nil]

theorem closing?_eq_some_iff {text : Text} {length : Nat} :
    closing? text = some length ↔
      ∃ blanks ending rest, IsBlanks blanks ∧
        (IsLineEnding ending ∨ ending = [] ∧ rest = []) ∧
        text = .char '-' :: .char '-' :: .char '-' :: (blanks ++ (ending ++ rest)) ∧
        length = 3 + blanks.length + ending.length := by
  constructor
  · intro h
    unfold closing? at h
    split at h
    · next rest =>
      obtain ⟨blanks, tail, hblanks, rfl, htake⟩ := exists_blanks rest
      simp only [htake, List.drop_left] at h
      split at h
      · obtain rfl := Option.some.inj h
        exact ⟨blanks, [], [], hblanks, .inr ⟨rfl, rfl⟩, rfl, rfl⟩
      · obtain ⟨inner, hinner, rfl⟩ := Option.map_eq_some_iff.mp h
        obtain ⟨ending, more, hending, rfl, rfl⟩ := lineEnding?_eq_some_iff.mp hinner
        exact ⟨blanks, ending, more, hblanks, .inl hending, rfl, rfl⟩
    · cases h
  · rintro ⟨blanks, ending, rest, hblanks, hending, rfl, rfl⟩
    have htake : (blanks ++ (ending ++ rest)).takeWhile (fun c => c = .char ' ' || c = .char '\t') =
      blanks := by
      apply takeWhile_blanks hblanks
      rcases hending with (rfl | rfl) | ⟨rfl, rfl⟩ <;> simp
    simp only [closing?, htake, List.drop_left]
    rcases hending with (rfl | rfl) | ⟨rfl, rfl⟩ <;> rfl

theorem closing?_of_line {line s : Text} {length : Nat} (hline : .char '\n' ∉ line)
    (h : closing? (line ++ .char '\n' :: s) = some length) (t : Text) :
    closing? (line ++ .char '\n' :: t) = some length := by
  obtain ⟨blanks, ending, rest, hblanks, hending, htext, rfl⟩ := closing?_eq_some_iff.mp h
  have hfeed : .char '\n' ∉ .char '-' :: .char '-' :: .char '-' :: blanks := by
    simpa using fun hmem => by simpa using hblanks _ hmem
  rcases hending with (rfl | rfl) | ⟨rfl, rfl⟩
  · obtain ⟨rfl, -⟩ := Text.append_cons_inj hline hfeed htext
    exact closing?_eq_some_iff.mpr ⟨blanks, [.char '\n'], t, hblanks, .inl (.inl rfl), rfl, rfl⟩
  · have hreturn : .char '\n' ∉ .char '-' :: .char '-' :: .char '-' :: (blanks ++
      [.char '\r']) := by simpa using hfeed
    obtain ⟨rfl, -⟩ := Text.append_cons_inj hline hreturn (t := rest) (by simpa using htext)
    exact closing?_eq_some_iff.mpr
      ⟨blanks, [.char '\r', .char '\n'], t, hblanks, .inl (.inr rfl), by simp, rfl⟩
  · have hmem : .char '\n' ∈ .char '-' :: .char '-' :: .char '-' :: (blanks ++ ([] ++ [])) :=
      htext ▸ by simp
    exact absurd (by simpa using hmem) hfeed

theorem closing?_line {line : Text} (hline : .char '\n' ∉ line) (s t : Text) :
    closing? (line ++ .char '\n' :: s) = closing? (line ++ .char '\n' :: t) := by
  cases hs : closing? (line ++ .char '\n' :: s) with
  | some length => exact (closing?_of_line hline hs t).symm
  | none =>
      cases ht : closing? (line ++ .char '\n' :: t) with
      | none => rfl
      | some length => exact absurd (closing?_of_line hline ht s) (by simp [hs])

theorem exists_closeLine (s : Text) : ∃ added, closeLine s = s ++ added := by
  unfold closeLine
  split
  · exact ⟨[], (List.append_nil s).symm⟩
  · exact ⟨[.char '\n'], rfl⟩

theorem closeLine_closeLine (s : Text) : closeLine (closeLine s) = closeLine s := by
  unfold closeLine
  split
  · rfl
  · simp

theorem closeLine_append (s : Text) {t : Text} (ht : t ≠ []) :
    closeLine (s ++ t) = s ++ closeLine t := by
  have hlast : (s ++ t).getLast? = t.getLast? := List.getLast?_append_of_ne_nil s ht
  unfold closeLine
  rw [hlast]
  split <;> simp_all

theorem closeLine_eq_self {s : Text} (h : s.getLast? = some (.char '\n')) : closeLine s = s := by
  simp [closeLine, h]

theorem closeLine_take_of_closing? {text : Text} {length : Nat} (h : closing? text = some length) :
    text.take length ≠ [] ∧ ∃ blanks ending, IsBlanks blanks ∧ IsLineEnding ending ∧
      closeLine (text.take length) = .char '-' :: .char '-' :: .char '-' :: (blanks ++ ending) := by
  obtain ⟨blanks, ending, rest, hblanks, hending, rfl, rfl⟩ := closing?_eq_some_iff.mp h
  have htake : List.take (3 + blanks.length + ending.length)
      (.char '-' :: .char '-' :: .char '-' :: (blanks ++ (ending ++ rest))) =
      .char '-' :: .char '-' :: .char '-' :: blanks ++ ending := by
    rw [← List.append_assoc, ← List.cons_append, ← List.cons_append, ← List.cons_append]
    apply List.take_left'
    simp
    omega
  rw [htake]
  refine ⟨by simp, blanks, ?_⟩
  rcases hending with hending | ⟨rfl, rfl⟩
  · refine ⟨ending, hblanks, hending, ?_⟩
    rcases hending with rfl | rfl
    · rw [closeLine_append _ (by simp), closeLine_eq_self rfl]
      rfl
    · rw [closeLine_append _ (by simp), closeLine_eq_self rfl]
      rfl
  · have hlast : (.char '-' :: .char '-' :: .char '-' :: blanks).getLast? ≠ some (.char '\n') := by
      intro hlast
      have hfeed : .char '\n' ∈ blanks := by simpa using List.mem_of_getLast? hlast
      simpa using hblanks _ hfeed
    refine ⟨[.char '\n'], hblanks, .inl rfl, ?_⟩
    rw [List.append_nil, closeLine, if_neg (by simpa using hlast)]
    rfl

theorem exists_line_of_laterClosing? {rest : Text} {length : Nat}
    (h : laterClosing? rest = some length) :
    ∃ line more, .char '\n' ∉ line ∧ rest = line ++ .char '\n' :: more ∧ line.length < length := by
  fun_induction laterClosing? rest generalizing length with
  | case1 => cases h
  | case2 c rest inner hinner =>
      obtain rfl := Option.some.inj h
      split at hinner
      · next hc => exact ⟨[], rest, by simp, by simp [hc], by rw [List.length_nil]; omega⟩
      · cases hinner
  | case3 c rest hnone ih =>
      obtain ⟨inner, hinner, rfl⟩ := Option.map_eq_some_iff.mp h
      obtain ⟨line, more, hline, rfl, hlength⟩ := ih hinner
      by_cases hc : c = .char '\n'
      · exact ⟨[], line ++ .char '\n' :: more, by simp, by simp [hc],
          by rw [List.length_nil]; omega⟩
      · exact ⟨c :: line, more, by simp [hline, Ne.symm hc], rfl, by rw [List.length_cons]; omega⟩

theorem closing?_closeLine_take {rest : Text} {length : Nat}
    (h : laterClosing? rest = some length) (t : Text) :
    closing? (closeLine (rest.take length) ++ t) = closing? rest := by
  obtain ⟨line, more, hline, rfl, hlength⟩ := exists_line_of_laterClosing? h
  obtain ⟨kept, hkept⟩ : ∃ kept, (line ++ .char '\n' :: more).take length =
    line ++ .char '\n' :: kept := by
    obtain ⟨extra, rfl⟩ : ∃ extra, length = line.length + (extra + 1) :=
      ⟨length - line.length - 1, by omega⟩
    exact ⟨more.take extra, by rw [List.take_length_add_append, List.take_succ_cons]⟩
  obtain ⟨added, hadded⟩ := exists_closeLine (line ++ .char '\n' :: kept)
  rw [hkept, hadded, List.append_assoc, List.append_assoc, List.cons_append]
  exact closing?_line hline _ _

theorem laterClosing?_closeLine {rest : Text} {length : Nat} (h : laterClosing? rest = some length)
    (t : Text) : rest.take length ≠ [] ∧
    laterClosing? (closeLine (rest.take length) ++ t) =
      some (closeLine (rest.take length)).length := by
  -- The line that closes the block is found again with its line feed, and the lines before it are
  -- whole, so they close it no more than they did.
  fun_induction laterClosing? rest generalizing length with
  | case1 => cases h
  | case2 c rest inner hinner =>
      obtain rfl := Option.some.inj h
      split at hinner
      · next hc =>
        obtain ⟨hne, blanks, ending, hblanks, hending, hclose⟩ := closeLine_take_of_closing? hinner
        have hclosing := closing?_eq_some_iff.mpr
          ⟨blanks, ending, t, hblanks, .inl hending, rfl, rfl⟩
        rw [Nat.add_comm, List.take_succ_cons, ← List.singleton_append, closeLine_append _ hne,
          hclose]
        refine ⟨by simp, ?_⟩
        simp [laterClosing?, hc, hclosing]
        omega
      · cases hinner
  | case3 c rest hnone ih =>
      obtain ⟨inner, hinner, rfl⟩ := Option.map_eq_some_iff.mp h
      obtain ⟨hne, hlater⟩ := ih hinner
      rw [Nat.add_comm, List.take_succ_cons, ← List.singleton_append, closeLine_append _ hne]
      refine ⟨by simp, ?_⟩
      simp [laterClosing?, closing?_closeLine_take hinner t, hnone, hlater, Nat.add_comm]

theorem drop_opening (ending rest : Text) :
    List.drop (3 + ending.length) (.char '-' :: .char '-' :: .char '-' :: (ending ++ rest)) =
      rest := by
  rw [Nat.add_comm]
  exact List.drop_left

theorem block?_of_opening {ending : Text} (hending : IsLineEnding ending) (rest : Text) :
    block? (.char '-' :: .char '-' :: .char '-' :: (ending ++ rest)) =
      ((laterClosing? rest).or (closing? rest)).map (3 + ending.length + ·) := by
  have hopening := opening?_eq_some_iff.mpr ⟨ending, rest, hending, rfl, rfl⟩
  simp only [block?, hopening, Option.bind_eq_bind, Option.bind_some, drop_opening]
  cases (laterClosing? rest).or (closing? rest) <;> rfl

theorem block?_closeLine {existing : Text} {opening split : Nat}
    (hopening : opening? existing = some opening)
    (hsecond : closing? (existing.drop opening) = none) (hblock : block? existing = some split)
    (t : Text) :
    block? (closeLine (existing.take split) ++ t) =
      some (closeLine (existing.take split)).length := by
  obtain ⟨ending, rest, hending, rfl, rfl⟩ := opening?_eq_some_iff.mp hopening
  rw [drop_opening] at hsecond
  rw [block?_of_opening hending, hsecond, Option.or_none] at hblock
  obtain ⟨inner, hlater, rfl⟩ := Option.map_eq_some_iff.mp hblock
  obtain ⟨hne, hkept⟩ := laterClosing?_closeLine hlater t
  have hclose : closeLine (List.take (3 + ending.length + inner)
      (.char '-' :: .char '-' :: .char '-' :: (ending ++ rest))) =
      .char '-' :: .char '-' :: .char '-' :: (ending ++ closeLine (rest.take inner)) := by
    rw [List.take_add, drop_opening, closeLine_append _ hne, Nat.add_comm 3]
    simp
  rw [hclose]
  simp only [List.cons_append, List.append_assoc, block?_of_opening hending, hkept]
  simp
  omega

def stack (bodies : List Text) : Text := bodies.reverse.flatMap (· ++ [.char '\n'])

theorem stack_cons (body : Text) (bodies : List Text) :
    stack (body :: bodies) = stack bodies ++ (body ++ [.char '\n']) := by
  simp [stack]

section Below

variable {head : Text} (hclosed : closeLine head = head)
  (hhead : ∀ t, block? (head ++ t) = some head.length)
include hclosed hhead

theorem insert_top_below (t body : Text) :
    insert true (head ++ t) body = head ++ (body ++ .char '\n' :: t) := by
  simp [insert, insertAtTop, hhead, hclosed]

theorem foldl_insert_top_below (t : Text) (bodies : List Text) :
    bodies.foldl (insert true) (head ++ t) = head ++ (stack bodies ++ t) := by
  induction bodies generalizing t with
  | nil => rfl
  | cons body rest ih =>
      rw [List.foldl_cons, insert_top_below hclosed hhead, ih, stack_cons]
      simp

end Below

/-- Whatever is inserted at the top of a note, one text after another, ends up between the block of
properties and what followed it, the last one first; nothing is lost, and the block stays what it
was but for the line feed that ends it. -/
theorem foldl_insert_top {existing : Text} {opening split : Nat}
    (hopening : opening? existing = some opening)
    (hsecond : closing? (existing.drop opening) = none) (hblock : block? existing = some split)
    {bodies : List Text} (hbodies : bodies ≠ []) :
    bodies.foldl (insert true) existing =
      closeLine (existing.take split) ++ stack bodies ++ existing.drop split := by
  cases bodies with
  | nil => exact absurd rfl hbodies
  | cons body rest =>
      have hfound := block?_closeLine hopening hsecond hblock
      have hfirst : insert true existing body =
          closeLine (existing.take split) ++ (body ++ .char '\n' :: existing.drop split) := by
        simp [insert, insertAtTop, hblock]
      rw [List.foldl_cons, hfirst, foldl_insert_top_below
        (closeLine_closeLine _) hfound, stack_cons]
      simp

theorem foldl_insert_top_rules :
    opening? "---\r\na: 1\n--- \t" = some 5 ∧
      closing? (List.drop 5 ("---\r\na: 1\n--- \t" : Text)) = none ∧
      block? "---\r\na: 1\n--- \t" = some 15 ∧
      (["---\n", "b\r\n---\r\n---"] : List Text) ≠ [] ∧
      (["---\n", "b\r\n---\r\n---"] : List Text).foldl (insert true) "---\r\na: 1\n--- \t" =
        "---\r\na: 1\n--- \t\nb\r\n---\r\n---\n---\n\n" :=
  ⟨rfl, rfl, rfl, by decide, @foldl_insert_top _ 5 15 rfl rfl rfl _ (by decide)⟩

end Clippings.Note
