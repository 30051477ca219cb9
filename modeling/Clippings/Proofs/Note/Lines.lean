import Clippings.Proofs.Note.Insertion

namespace Clippings

namespace Text

def lines : Text → List Text
  | [] => []
  | c :: rest => if c = '\n' then [c] :: lines rest else extendHead c (lines rest)

theorem lines_append_cons {line : Text} (hline : .char '\n' ∉ line) (rest : Text) :
    lines (line ++ .char '\n' :: rest) = (line ++ [.char '\n']) :: lines rest := by
  induction line with
  | nil => simp [lines]
  | cons c line ih =>
      obtain ⟨hc, hline⟩ : .char '\n' ≠ c ∧ .char '\n' ∉ line := by simpa using hline
      rw [List.cons_append, lines, if_neg hc.symm, ih hline]
      rfl

theorem lines_of_not_mem {line : Text} (hne : line ≠ []) (hline : .char '\n' ∉ line) :
    lines line = [line] := by
  induction line with
  | nil => exact absurd rfl hne
  | cons c line ih =>
      obtain ⟨hc, hline⟩ : .char '\n' ≠ c ∧ .char '\n' ∉ line := by simpa using hline
      rw [lines, if_neg hc.symm]
      cases line with
      | nil => rfl
      | cons d line => rw [ih (by simp) hline]; rfl

theorem flatten_extendHead (c : CodePoint) (pieces : List Text) :
    (extendHead c pieces).flatten = c :: pieces.flatten := by
  cases pieces <;> rfl

theorem flatten_lines (text : Text) : (lines text).flatten = text := by
  induction text with
  | nil => rfl
  | cons c rest ih =>
      rw [lines]
      split
      · rw [List.flatten_cons, ih]
        rfl
      · rw [flatten_extendHead, ih]

theorem eq_append_of_lines {text line : Text} {more : List Text} (h : lines text = line :: more) :
    text = line ++ more.flatten := by
  rw [← List.flatten_cons, ← h, flatten_lines]

theorem lines_eq_cons {text line : Text} {more : List Text} (h : lines text = line :: more) :
    (∃ start rest, .char '\n' ∉ start ∧ line = start ++ [.char '\n'] ∧
        text = start ++ .char '\n' :: rest ∧ lines rest = more) ∨
      .char '\n' ∉ line ∧ line ≠ [] ∧ text = line ∧ more = [] := by
  by_cases hfeed : .char '\n' ∈ text
  · obtain ⟨start, rest, rfl, hstart⟩ := List.eq_append_cons_of_mem hfeed
    rw [lines_append_cons hstart] at h
    obtain ⟨rfl, rfl⟩ := List.cons.inj h
    exact .inl ⟨start, rest, hstart, rfl, rfl, rfl⟩
  · have hne : text ≠ [] := by
      rintro rfl
      cases h
    rw [lines_of_not_mem hne hfeed] at h
    obtain ⟨rfl, rfl⟩ := List.cons.inj h
    exact .inr ⟨hfeed, hne, rfl, rfl⟩

theorem lines_flatten_tail {text line : Text} {more : List Text} (h : lines text = line :: more) :
    lines more.flatten = more := by
  rcases lines_eq_cons h with ⟨start, rest, -, -, -, rfl⟩ | ⟨-, -, -, rfl⟩
  · rw [flatten_lines]
  · rfl

end Text

namespace Note

def IsOpeningLine (line : Text) : Prop :=
  ∃ ending, IsLineEnding ending ∧ line = .char '-' :: .char '-' :: .char '-' :: ending

/-- A line that closes a block: blanks and tabs may follow the hyphens, and the last line of a note
needs no ending. -/
def IsClosingLine (line : Text) : Prop :=
  ∃ blanks ending, IsBlanks blanks ∧ (IsLineEnding ending ∨ ending = []) ∧
    line = .char '-' :: .char '-' :: .char '-' :: (blanks ++ ending)

theorem IsBlanks.not_mem {blanks : Text} (h : IsBlanks blanks) :
    .char '\n' ∉ .char '-' :: .char '-' :: .char '-' :: blanks := by
  simpa using fun hmem => by simpa using h _ hmem

theorem closing?_of_lines {text line : Text} {more : List Text}
    (hlines : Text.lines text = line :: more) (length : Nat) :
    closing? text = some length ↔ IsClosingLine line ∧ length = line.length := by
  rw [closing?_eq_some_iff]
  constructor
  · rintro ⟨blanks, ending, rest, hblanks, hending, rfl, rfl⟩
    have hline : line = .char '-' :: .char '-' :: .char '-' :: (blanks ++ ending) := by
      rcases hending with (rfl | rfl) | ⟨rfl, rfl⟩
      · have hfirst := Text.lines_append_cons hblanks.not_mem rest
        exact (List.cons.inj (hlines.symm.trans hfirst)).1
      · have hreturn : .char '\n' ∉
            .char '-' :: .char '-' :: .char '-' :: (blanks ++ [CodePoint.char '\r']) := by
          simpa using hblanks.not_mem
        have hfirst := Text.lines_append_cons hreturn rest
        rw [List.cons_append, List.cons_append, List.cons_append, List.append_assoc] at hfirst
        simpa using (List.cons.inj (hlines.symm.trans hfirst)).1
      · have hfirst := Text.lines_of_not_mem (by simp) hblanks.not_mem
        rw [List.append_nil, List.append_nil, hfirst] at hlines
        rw [List.append_nil]
        exact (List.cons.inj hlines).1.symm
    refine ⟨⟨blanks, ending, hblanks, hending.imp id And.left, hline⟩, ?_⟩
    simp [hline]
    omega
  · rintro ⟨⟨blanks, ending, hblanks, hending, hline⟩, rfl⟩
    have htext := Text.flatten_lines text
    rw [hlines, List.flatten_cons, hline] at htext
    refine ⟨blanks, ending, more.flatten, hblanks, ?_, ?_, ?_⟩
    · refine hending.imp id fun hnil => ⟨hnil, ?_⟩
      rcases Text.lines_eq_cons hlines with ⟨start, rest, -, hfeed, -⟩ | ⟨-, -, -, rfl⟩
      · have hmem : .char '\n' ∈ line := by simp [hfeed]
        rw [hline, hnil, List.append_nil] at hmem
        exact absurd hmem hblanks.not_mem
      · rfl
    · simpa using htext.symm
    · simp [hline]
      omega

theorem laterClosing?_append_cons {start : Text} (hstart : .char '\n' ∉ start) (rest : Text) :
    laterClosing? (start ++ .char '\n' :: rest) =
      ((closing? rest).or (laterClosing? rest)).map (start.length + 1 + ·) := by
  induction start with
  | nil =>
      simp only [List.nil_append, laterClosing?, if_true]
      cases closing? rest <;> simp
  | cons c start ih =>
      obtain ⟨hc, hstart⟩ : .char '\n' ≠ c ∧ .char '\n' ∉ start := by simpa using hstart
      simp only [List.cons_append, laterClosing?, if_neg hc.symm, ih hstart, Option.map_map]
      congr 1
      funext length
      simp
      omega

theorem laterClosing?_of_not_mem {text : Text} (h : .char '\n' ∉ text) :
    laterClosing? text = none := by
  induction text with
  | nil => rfl
  | cons c text ih =>
      obtain ⟨hc, htext⟩ : .char '\n' ≠ c ∧ .char '\n' ∉ text := by simpa using h
      simp [laterClosing?, hc.symm, ih htext]

theorem laterClosing?_of_lines {text line : Text} {more : List Text}
    (hlines : Text.lines text = line :: more) :
    laterClosing? text =
      ((closing? more.flatten).or (laterClosing? more.flatten)).map (line.length + ·) := by
  rcases Text.lines_eq_cons hlines with ⟨start, rest, hstart, rfl, rfl, rfl⟩ | ⟨hfeed, -, rfl, rfl⟩
  · rw [Text.flatten_lines, laterClosing?_append_cons hstart, List.length_append]
    rfl
  · rw [laterClosing?_of_not_mem hfeed]
    rfl

theorem isClosingLine_iff {line : Text} (hline : Text.lines line = [line]) :
    IsClosingLine line ↔ closing? line = some line.length := by
  rw [closing?_of_lines hline]
  exact (and_iff_left rfl).symm

theorem closing?_of_lines_eq_none {text line : Text} {more : List Text}
    (hlines : Text.lines text = line :: more) (hline : ¬ IsClosingLine line) :
    closing? text = none :=
  Option.eq_none_iff_forall_ne_some.mpr fun length h =>
    hline ((closing?_of_lines hlines length).mp h).1

theorem laterClosing?_eq_some {text second closing : Text} {inner after : List Text}
    (hlines : Text.lines text = second :: (inner ++ closing :: after))
    (hinner : ∀ line ∈ inner, ¬ IsClosingLine line) (hclosing : IsClosingLine closing) :
    laterClosing? text = some ((second :: inner).flatten.length + closing.length) := by
  induction inner generalizing text second with
  | nil =>
      have htail : Text.lines (closing :: after).flatten = closing :: after :=
        Text.lines_flatten_tail hlines
      rw [laterClosing?_of_lines hlines, List.nil_append,
        (closing?_of_lines htail closing.length).mpr ⟨hclosing, rfl⟩]
      simp
  | cons next inner ih =>
      obtain ⟨hnext, hinner⟩ := List.forall_mem_cons.mp hinner
      have htail : Text.lines (next :: (inner ++ closing :: after)).flatten =
          next :: (inner ++ closing :: after) := Text.lines_flatten_tail hlines
      rw [laterClosing?_of_lines hlines, List.cons_append, closing?_of_lines_eq_none htail hnext,
        ih htail hinner]
      simp
      omega

theorem laterClosing?_eq_none {text second : Text} {more : List Text}
    (hlines : Text.lines text = second :: more) (hmore : ∀ line ∈ more, ¬ IsClosingLine line) :
    laterClosing? text = none := by
  induction more generalizing text second with
  | nil => rw [laterClosing?_of_lines hlines]; rfl
  | cons next more ih =>
      obtain ⟨hnext, hmore⟩ := List.forall_mem_cons.mp hmore
      have htail := Text.lines_flatten_tail hlines
      rw [laterClosing?_of_lines hlines, closing?_of_lines_eq_none htail hnext, ih htail hmore]
      rfl

theorem block?_of_lines {existing first : Text} {more : List Text}
    (hlines : Text.lines existing = first :: more) (hfirst : IsOpeningLine first) :
    block? existing =
      ((laterClosing? more.flatten).or (closing? more.flatten)).map (first.length + ·) := by
  obtain ⟨ending, hending, rfl⟩ := hfirst
  rw [Text.eq_append_of_lines hlines, List.cons_append, List.cons_append, List.cons_append,
    block?_of_opening hending]
  congr 1
  funext length
  simp
  omega

theorem block?_of_later {existing first second closing : Text} {inner after : List Text}
    (hlines : Text.lines existing = first :: second :: (inner ++ closing :: after))
    (hfirst : IsOpeningLine first) (hinner : ∀ line ∈ inner, ¬ IsClosingLine line)
    (hclosing : IsClosingLine closing) :
    block? existing = some ((first :: second :: inner).flatten.length + closing.length) := by
  rw [block?_of_lines hlines hfirst,
    laterClosing?_eq_some (Text.lines_flatten_tail hlines) hinner hclosing]
  simp
  omega

theorem block?_of_second {existing first closing : Text} {after : List Text}
    (hlines : Text.lines existing = first :: closing :: after) (hfirst : IsOpeningLine first)
    (hclosing : IsClosingLine closing) (hafter : ∀ line ∈ after, ¬ IsClosingLine line) :
    block? existing = some (first.length + closing.length) := by
  have htail := Text.lines_flatten_tail hlines
  rw [block?_of_lines hlines hfirst, laterClosing?_eq_none htail hafter,
    (closing?_of_lines htail closing.length).mpr ⟨hclosing, rfl⟩]
  rfl

theorem IsClosingLine.ne_nil {line : Text} (h : IsClosingLine line) : line ≠ [] := by
  obtain ⟨blanks, ending, -, -, rfl⟩ := h
  simp

theorem insert_top_of_block? {head last tail : Text} (hlast : last ≠ [])
    (hblock : block? (head ++ last ++ tail) = some (head.length + last.length)) (body : Text) :
    insert true (head ++ last ++ tail) body =
      head ++ closeLine last ++ body ++ .char '\n' :: tail := by
  rw [← List.length_append] at hblock
  simp only [insert, insertAtTop, hblock, Option.getD_some, List.take_left, List.drop_left,
    closeLine_append head hlast, if_true]

/-- Text is inserted directly below the first closing line behind the opening one, and everything
else stays as it is; only if that is the second line of the note, and another closing line follows,
the text goes below that one. -/
theorem insert_top_of_lines {existing first closing : Text} {inner after : List Text}
    (hlines : Text.lines existing = first :: (inner ++ closing :: after))
    (hfirst : IsOpeningLine first) (hinner : ∀ line ∈ inner, ¬ IsClosingLine line)
    (hclosing : IsClosingLine closing) (body : Text) :
    ((inner ≠ [] ∨ ∀ line ∈ after, ¬ IsClosingLine line) →
        insert true existing body =
          (first :: inner).flatten ++ closeLine closing ++ body ++ .char '\n' :: after.flatten) ∧
      ∀ (skipped rest : List Text) (later : Text),
        inner = [] → after = skipped ++ later :: rest →
        (∀ line ∈ skipped, ¬ IsClosingLine line) → IsClosingLine later →
        insert true existing body =
          (first :: closing :: skipped).flatten ++ closeLine later ++ body ++
            .char '\n' :: rest.flatten := by
  have htext := Text.eq_append_of_lines hlines
  constructor
  · intro hplain
    have hexisting : existing = (first :: inner).flatten ++ closing ++ after.flatten := by
      simpa using htext
    have hblock : block? existing = some ((first :: inner).flatten.length + closing.length) := by
      cases inner with
      | nil =>
          have hafter := hplain.resolve_left (fun hne => hne rfl)
          simpa using block?_of_second hlines hfirst hclosing hafter
      | cons second inner =>
          exact block?_of_later hlines hfirst (List.forall_mem_cons.mp hinner).2 hclosing
    rw [hexisting] at hblock ⊢
    exact insert_top_of_block? hclosing.ne_nil hblock body
  · rintro skipped rest later rfl rfl hskipped hlater
    have hexisting : existing = (first :: closing :: skipped).flatten ++ later ++ rest.flatten := by
      simpa using htext
    have hblock := block?_of_later hlines hfirst hskipped hlater
    rw [hexisting] at hblock ⊢
    exact insert_top_of_block? hlater.ne_nil hblock body

theorem insert_top_of_lines_rule :
    (Text.lines "---\r\na\n----\n--- \t" = "---\r\n" :: (["a\n", "----\n"] ++ ["--- \t"]) ∧
      IsOpeningLine "---\r\n" ∧ (∀ line ∈ (["a\n", "----\n"] : List Text), ¬ IsClosingLine line) ∧
      IsClosingLine "--- \t" ∧ (["a\n", "----\n"] : List Text) ≠ [] ∧
      insert true "---\r\na\n----\n--- \t" "b" = "---\r\na\n----\n--- \t\nb\n") ∧
      (Text.lines "---\n---\nA\n---\nB" = "---\n" :: ([] ++ "---\n" :: ["A\n", "---\n", "B"]) ∧
        IsClosingLine "---\n" ∧ (∀ line ∈ (["A\n"] : List Text), ¬ IsClosingLine line) ∧
        insert true "---\n---\nA\n---\nB" "b" = "---\n---\nA\n---\nb\nB") := by
  have hopen : IsOpeningLine "---\r\n" := ⟨[.char '\r', .char '\n'], .inr rfl, rfl⟩
  have hinner : ∀ line ∈ (["a\n", "----\n"] : List Text), ¬ IsClosingLine line := by
    intro line hline h
    rcases List.mem_pair.mp hline with rfl | rfl
    · exact absurd ((isClosingLine_iff rfl).mp h) (by decide)
    · exact absurd ((isClosingLine_iff rfl).mp h) (by decide)
  have hclosing : IsClosingLine "--- \t" :=
    ⟨[.char ' ', .char '\t'], [], by simp [IsBlanks], .inr rfl, rfl⟩
  have hrule : IsClosingLine "---\n" := ⟨[], [.char '\n'], by simp [IsBlanks], .inl (.inl rfl), rfl⟩
  have hskipped : ∀ line ∈ (["A\n"] : List Text), ¬ IsClosingLine line := by
    intro line hline h
    obtain rfl := List.mem_singleton.mp hline
    exact absurd ((isClosingLine_iff rfl).mp h) (by decide)
  have hplain := @insert_top_of_lines "---\r\na\n----\n--- \t" _ _ ["a\n", "----\n"] []
    rfl hopen hinner hclosing "b"
  have hempty := @insert_top_of_lines "---\n---\nA\n---\nB" _ _ [] ["A\n", "---\n", "B"]
    rfl ⟨[.char '\n'], .inl rfl, rfl⟩ (by simp) hrule "b"
  exact ⟨⟨rfl, hopen, hinner, hclosing, by decide, hplain.1 (.inl (by decide))⟩, rfl, hrule,
    hskipped, hempty.2 ["A\n"] ["B"] "---\n" rfl rfl hskipped hrule⟩

/-- The second line of this note is its first closing line, but the text goes below the fourth. -/
theorem insert_top_below_rule :
    Text.lines "---\n---\nA\n---\nB\n" = ["---\n", "---\n", "A\n", "---\n", "B\n"] ∧
      IsOpeningLine "---\n" ∧ IsClosingLine "---\n" ∧
      insert true "---\n---\nA\n---\nB\n" "NEW" = "---\n---\nA\n---\nNEW\nB\n" ∧
      insert true "---\n---\nA\n---\nB\n" "NEW" ≠ "---\n---\nNEW\nA\n---\nB\n" :=
  ⟨rfl, ⟨[.char '\n'], .inl rfl, rfl⟩,
    ⟨[], [.char '\n'], by simp [IsBlanks], .inl (.inl rfl), rfl⟩, rfl,
    by decide⟩

end Note

end Clippings
