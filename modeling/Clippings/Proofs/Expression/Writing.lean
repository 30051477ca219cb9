import Clippings.Expression.Basic
import Clippings.Proofs.Expression.Pieces
/-!
Writing an expression. Each argument may stand in either kind of quotes, arguments are separated by
commas or colons, and parentheses may stand around them. Whatever is chosen, reading gives back the
expression that was written (`Expression.parse_write`).
-/

namespace Clippings

/-- A text with the quotes that it is written in. The quote stands inside of it only behind a
backslash, and no backslash stands at its end. -/
structure QuotedText where
  text : Text
  quote : CodePoint
  isQuote_quote : isQuote quote = true
  escaped : ∀ before after, text = before ++ quote :: after → before.getLast? = some (.char '\\')
  getLast_ne : text.getLast? ≠ some (.char '\\')

def QuotedText.written (s : QuotedText) : Text := s.quote :: s.text ++ [s.quote]

inductive ArgumentBreak
  | comma
  | colon

def ArgumentBreak.char : ArgumentBreak → CodePoint
  | comma => ','
  | colon => ':'

structure WrittenArguments where
  first : QuotedText
  others : List (ArgumentBreak × QuotedText) := []
  wrapped : Bool := false

namespace WrittenArguments

def writtenOthers (others : List (ArgumentBreak × QuotedText)) : Text :=
  others.flatMap fun other => other.1.char :: other.2.written

def inside (args : WrittenArguments) : Text := args.first.written ++ writtenOthers args.others

def written (args : WrittenArguments) : Text :=
  if args.wrapped then .char '(' :: args.inside ++ [CodePoint.char ')'] else args.inside

def texts (args : WrittenArguments) : List Text :=
  args.first.text :: args.others.map fun other => other.2.text

end WrittenArguments

/-- Whether a text can be the name of a filter: no character in it means anything to the scanner,
and nothing at its ends is lost or changes what follows. -/
structure IsFilterName (name : Text) : Prop where
  ne_nil : name ≠ []
  strip_eq : Text.strip name = name
  plain : ∀ c ∈ name, c ∉ [.char '|', .char ':', .char '(', .char ')', .char '"', .char '\'']
  getLast_ne : name.getLast? ≠ some (.char '\\')

/-- A filter with its arguments, if it has any, and the way they are written. -/
structure WrittenCall where
  name : Text
  isName : IsFilterName name
  args : Option WrittenArguments := none

namespace WrittenCall

def written (call : WrittenCall) : Text :=
  match call.args with
  | none => call.name
  | some args => call.name ++ .char ':' :: args.written

def call (call : WrittenCall) : FilterCall where
  name := call.name
  args := (call.args.map WrittenArguments.texts).getD []

end WrittenCall

def Expression.write (variableName : Text) (calls : List WrittenCall) : Text :=
  variableName ++ calls.flatMap fun call => .char '|' :: call.written

theorem isBlank_of_isQuote {c : CodePoint} (hc : isQuote c = true) : Text.isBlank c = false := by
  have hcases : c = '"' ∨ c = '\'' := by simpa [isQuote] using hc
  rcases hcases with rfl | rfl <;> decide

theorem ne_of_isQuote {c d : CodePoint} (hc : isQuote c = true)
    (hd : isQuote d = false) : c ≠ d := by
  rintro rfl
  simp [hc] at hd

namespace QuotedText

theorem escaped_of_take {text : Text} {quote : CodePoint}
    (h : ∀ i < text.length, text[i]? = some quote → (text.take i).getLast? = some (.char '\\')) :
    ∀ before after, text = before ++ quote :: after → before.getLast? = some (.char '\\') := by
  rintro before after rfl
  simpa using h before.length (by simp) (by simp)

theorem head?_written (s : QuotedText) : s.written.head? = some s.quote := rfl

theorem getLast?_written (s : QuotedText) : s.written.getLast? = some s.quote :=
  List.getLast?_concat

theorem written_ne_nil (s : QuotedText) : s.written ≠ [] := List.cons_ne_nil _ _

theorem strip_written (s : QuotedText) : Text.strip s.written = s.written := by
  have hquote := isBlank_of_isQuote s.isQuote_quote
  apply Text.strip_eq_self_of_ends
  · intro c hc
    rw [head?_written] at hc
    exact Option.some.inj hc ▸ hquote
  · intro c hc
    rw [getLast?_written] at hc
    exact Option.some.inj hc ▸ hquote

theorem isQuoted_written (s : QuotedText) : Scan.isQuoted s.written = true := by
  rw [Scan.isQuoted, strip_written]
  simp [written, s.isQuote_quote]

theorem unquote_written (s : QuotedText) : Scan.unquote s.written = s.text := by
  rw [Scan.unquote, if_pos s.isQuoted_written]
  simp [written]

end QuotedText

namespace Scan

theorem crosses_between_quotes (cuts : Cuts) {quote : CodePoint} (depth : Int) {text : Text}
    {before : Option CodePoint}
    (hescaped : ∀ front back, text = front ++ quote :: back →
      lastChar before front = some (.char '\\')) :
    Crosses cuts ⟨some quote, depth⟩ before text ⟨some quote, depth⟩ := by
  induction text generalizing before with
  | nil => exact Crosses.nil _ _ _
  | cons c rest ih =>
      apply Crosses.cons
      · intro current
        simp [Cuts.cutsAt, ScanState.isTopLevel]
      · have hstep : ScanState.step ⟨some quote, depth⟩ before c = ⟨some quote, depth⟩ := by
          by_cases hc : c = quote
          · subst hc
            have hbefore : before = some (.char '\\') := hescaped [] rest rfl
            simp [ScanState.step, ScanState.inQuotes, hbefore]
          · simp [ScanState.step, ScanState.inQuotes, hc]
        rw [hstep]
        apply ih
        intro front back hrest
        simpa using hescaped (c :: front) back (by simp [hrest])

theorem crosses_written (cuts : Cuts) (depth : Int) {before : Option CodePoint} (s : QuotedText)
    (hbefore : before ≠ some (.char '\\')) :
    Crosses cuts ⟨none, depth⟩ before s.written ⟨none, depth⟩ := by
  have hcut : ∀ (state : ScanState) (b : Option CodePoint), b ≠ some (.char '\\') →
      ∀ current, cuts.cutsAt state b current s.quote = false := by
    intro state b hb current
    simp [Cuts.cutsAt, s.isQuote_quote, hb]
  have hlast : lastChar (some s.quote) s.text ≠ some (.char '\\') := by
    rcases eq_or_ne s.text [] with hnil | hne
    · rw [hnil, lastChar_nil]
      intro h
      exact ne_of_isQuote s.isQuote_quote (d := '\\') (by decide) (Option.some.inj h)
    · rw [lastChar_of_ne_nil _ hne]
      exact s.getLast_ne
  have hopen : Crosses cuts ⟨some s.quote, depth⟩ (some s.quote) s.text
      ⟨some s.quote, depth⟩ := by
    apply crosses_between_quotes
    intro front back htext
    have hfront := s.escaped front back htext
    have hne : front ≠ [] := by
      rintro rfl
      simp at hfront
    rw [lastChar_of_ne_nil _ hne]
    exact hfront
  have hclose : Crosses cuts ⟨some s.quote, depth⟩ (lastChar (some s.quote) s.text) [s.quote]
      ⟨none, depth⟩ := by
    apply Crosses.cons (hcut _ _ hlast)
    have hstep : ScanState.step ⟨some s.quote, depth⟩ (lastChar (some s.quote) s.text) s.quote =
        ⟨none, depth⟩ := by
      simp [ScanState.step, s.isQuote_quote, hlast]
    rw [hstep]
    exact Crosses.nil _ _ _
  change Crosses cuts ⟨none, depth⟩ before (s.quote :: (s.text ++ [s.quote])) ⟨none, depth⟩
  apply Crosses.cons (hcut _ _ hbefore)
  have hstep : ScanState.step ⟨none, depth⟩ before s.quote = ⟨some s.quote, depth⟩ := by
    simp [ScanState.step, s.isQuote_quote, hbefore]
  rw [hstep]
  exact hopen.append hclose

end Scan

namespace WrittenArguments

theorem writtenOthers_cons (separator : ArgumentBreak) (s : QuotedText)
    (rest : List (ArgumentBreak × QuotedText)) :
    writtenOthers ((separator, s) :: rest) =
      separator.char :: s.written ++ writtenOthers rest := rfl

theorem crosses_others (depth : Int) (others : List (ArgumentBreak × QuotedText))
    {before : Option CodePoint} :
    Scan.Crosses Scan.bars ⟨none, depth⟩ before (writtenOthers others) ⟨none, depth⟩ := by
  induction others generalizing before with
  | nil => exact Scan.Crosses.nil _ _ _
  | cons other rest ih =>
      obtain ⟨separator, s⟩ := other
      rw [writtenOthers_cons]
      apply Scan.Crosses.cons
      · intro current
        cases separator <;> simp [Scan.Cuts.cutsAt, Scan.bars, ArgumentBreak.char]
      · have hstep : ScanState.step ⟨none, depth⟩ before separator.char = ⟨none, depth⟩ := by
          cases separator <;>
            simp [ScanState.step, ScanState.inQuotes, ArgumentBreak.char, isQuote]
        rw [hstep]
        refine Scan.Crosses.append (Scan.crosses_written _ depth s ?_) ih
        cases separator <;> simp [ArgumentBreak.char]

theorem crosses_inside (depth : Int) {before : Option CodePoint} (args : WrittenArguments)
    (hbefore : before ≠ some (.char '\\')) :
    Scan.Crosses Scan.bars ⟨none, depth⟩ before args.inside ⟨none, depth⟩ :=
  (Scan.crosses_written _ depth args.first hbefore).append (crosses_others depth args.others)

theorem crosses_arguments {before : Option CodePoint} (args : WrittenArguments)
    (hbefore : before ≠ some (.char '\\')) :
    Scan.Crosses Scan.bars {} before args.written {} := by
  rw [written]
  split
  · apply Scan.Crosses.cons
    · intro current
      simp [Scan.Cuts.cutsAt]
    · have hopening : ScanState.step {} before '(' = ⟨none, 1⟩ := by
        simp [ScanState.step, ScanState.inQuotes, isQuote]
      have hclosing : ∀ b, ScanState.step ⟨none, 1⟩ b ')' = {} := by
        intro b
        simp [ScanState.step, ScanState.inQuotes, isQuote]
      rw [hopening]
      refine (crosses_inside 1 args (by decide)).append ?_
      apply Scan.Crosses.cons
      · intro current
        simp [Scan.Cuts.cutsAt]
      · rw [hclosing]
        exact Scan.Crosses.nil _ _ _
  · exact crosses_inside 0 args hbefore

theorem piecesFrom_others (others : List (ArgumentBreak × QuotedText)) (s : QuotedText) :
    Scan.piecesFrom Scan.commas {} (some s.quote) s.written.reverse (writtenOthers others) =
      (s.written :: others.map (fun other => other.2.written), {}) := by
  induction others generalizing s with
  | nil => simp [writtenOthers, Scan.piecesFrom]
  | cons other rest ih =>
      obtain ⟨separator, t⟩ := other
      have hcut : Scan.commas.cutsAt {} (some s.quote) s.written.reverse separator.char = true := by
        cases separator <;>
          simp [Scan.Cuts.cutsAt, Scan.commas, ArgumentBreak.char, ScanState.isTopLevel, isQuote,
            s.isQuoted_written]
      have hbefore : some separator.char ≠ some (.char '\\') := by
        cases separator <;> simp [ArgumentBreak.char]
      have hlast : Scan.lastChar (some separator.char) t.written = some t.quote := by
        rw [Scan.lastChar_of_ne_nil _ t.written_ne_nil, t.getLast?_written]
      rw [writtenOthers_cons, List.cons_append, Scan.piecesFrom, if_pos hcut,
        (Scan.crosses_written _ 0 t hbefore).piecesFrom_append, hlast, List.append_nil, ih]
      simp

theorem split_inside (args : WrittenArguments) :
    (Scan.split Scan.commas args.inside).1 =
      args.first.written :: args.others.map fun other => other.2.written := by
  have hlast : Scan.lastChar none args.first.written = some args.first.quote := by
    rw [Scan.lastChar_of_ne_nil _ args.first.written_ne_nil, args.first.getLast?_written]
  have hpieces : Scan.piecesFrom Scan.commas {} none [] args.inside =
      (args.first.written :: args.others.map (fun other => other.2.written), {}) := by
    rw [inside, (Scan.crosses_written _ 0 args.first (by simp)).piecesFrom_append, hlast,
      List.append_nil, piecesFrom_others]
  have hwritten : ∀ piece ∈ args.first.written :: args.others.map (fun other => other.2.written),
      ∃ s : QuotedText, piece = s.written := by
    intro piece hpiece
    rcases List.mem_cons.mp hpiece with rfl | hother
    · exact ⟨args.first, rfl⟩
    · obtain ⟨other, -, rfl⟩ := List.mem_map.mp hother
      exact ⟨other.2, rfl⟩
  rw [Scan.split, hpieces]
  apply Scan.tidy_eq_self
  · intro piece hpiece
    obtain ⟨s, rfl⟩ := hwritten piece hpiece
    exact s.strip_written
  · intro piece hpiece
    obtain ⟨s, rfl⟩ := hwritten piece hpiece
    exact s.written_ne_nil

theorem head?_inside (args : WrittenArguments) : args.inside.head? = some args.first.quote := rfl

theorem exists_getLast?_inside (args : WrittenArguments) :
    ∃ s : QuotedText, args.inside.getLast? = some s.quote := by
  rcases args.others.eq_nil_or_concat with hnil | ⟨front, ⟨separator, s⟩, hothers⟩
  · refine ⟨args.first, ?_⟩
    simp [inside, hnil, writtenOthers, args.first.getLast?_written]
  · have hinside : args.inside =
        (args.first.written ++ writtenOthers front ++ [separator.char]) ++ s.written := by
      simp [inside, hothers, writtenOthers]
    refine ⟨s, ?_⟩
    rw [hinside, List.getLast?_append, s.getLast?_written]
    rfl

theorem isBlank_ends (args : WrittenArguments) {c : CodePoint}
    (hc : args.written.head? = some c ∨ args.written.getLast? = some c) :
    Text.isBlank c = false := by
  obtain ⟨s, hlast⟩ := args.exists_getLast?_inside
  rw [written] at hc
  split at hc
  · have hcases : '(' = c ∨ ')' = c := by
      simpa [List.getLast?_cons, List.getLast?_concat] using hc
    rcases hcases with rfl | rfl <;> decide
  · rw [head?_inside, hlast] at hc
    rcases hc with hc | hc
    · exact Option.some.inj hc ▸ isBlank_of_isQuote args.first.isQuote_quote
    · exact Option.some.inj hc ▸ isBlank_of_isQuote s.isQuote_quote

theorem unwrap_written (args : WrittenArguments) :
    FilterCall.unwrap args.written = args.inside := by
  rw [written]
  split
  · simp [FilterCall.unwrap, List.getLast?_cons]
  · have hne := ne_of_isQuote args.first.isQuote_quote (d := '(') (by decide)
    simp [FilterCall.unwrap, head?_inside, hne]

theorem parseArgs_written (args : WrittenArguments) :
    FilterCall.parseArgs args.written = args.texts := by
  have hstrip : Text.strip args.written = args.written :=
    Text.strip_eq_self_of_ends (fun _ hc => args.isBlank_ends (.inl hc))
      (fun _ hc => args.isBlank_ends (.inr hc))
  rw [FilterCall.parseArgs, hstrip, unwrap_written, split_inside]
  simp [texts, QuotedText.unquote_written, Function.comp_def]

end WrittenArguments

namespace IsFilterName

theorem isQuote_eq_false {name : Text} (h : IsFilterName name) {c : CodePoint} (hc : c ∈ name) :
    isQuote c = false ∧ c ≠ ':' := by
  have hplain := h.plain c hc
  simp only [List.mem_cons, List.not_mem_nil, or_false, not_or] at hplain
  simp [isQuote, hplain]

theorem crosses {name : Text} (h : IsFilterName name) (before : Option CodePoint) :
    Scan.Crosses Scan.bars {} before name {} := by
  apply Scan.crosses_of_plain
  intro c hc
  have hplain := h.plain c hc
  simp only [List.mem_cons, List.not_mem_nil, or_false, not_or] at hplain
  simp [isQuote, Scan.bars, hplain]

end IsFilterName

namespace FilterCall

theorem separatorFrom?_append {name : Text} (hname : ∀ c ∈ name, isQuote c = false ∧ c ≠ ':')
    (before : Option CodePoint) (position : Nat) (rest : Text) :
    separatorFrom? before none position (name ++ rest) =
      separatorFrom? (Scan.lastChar before name) none (position + name.length) rest := by
  induction name generalizing before position with
  | nil => rfl
  | cons c name ih =>
      obtain ⟨hquote, hcolon⟩ := hname c (by simp)
      have hstep : separatorFrom? before none position (c :: name ++ rest) =
          separatorFrom? (some c) none (position + 1) (name ++ rest) := by
        simp [separatorFrom?, hquote, hcolon]
      rw [hstep, ih (fun d hd => hname d (by simp [hd])), Scan.lastChar_cons, List.length_cons,
        Nat.add_assoc, Nat.add_comm 1]

theorem separator?_name {name : Text} (h : IsFilterName name) : separator? name = none := by
  have hpassed := separatorFrom?_append (fun c hc => h.isQuote_eq_false hc) none 0 []
  simpa [separator?, separatorFrom?] using hpassed

theorem separator?_name_colon {name : Text} (h : IsFilterName name) (rest : Text) :
    separator? (name ++ .char ':' :: rest) = some name.length := by
  have hlast : Scan.lastChar none name ≠ some (.char '\\') := by
    rw [Scan.lastChar_of_ne_nil _ h.ne_nil]
    exact h.getLast_ne
  rw [separator?, separatorFrom?_append (fun c hc => h.isQuote_eq_false hc)]
  simp [separatorFrom?, hlast, isQuote]

end FilterCall

namespace WrittenCall

theorem written_ne_nil (call : WrittenCall) : call.written ≠ [] := by
  rw [written]
  split
  · exact call.isName.ne_nil
  · simp

theorem strip_written (call : WrittenCall) : Text.strip call.written = call.written := by
  obtain ⟨name, hname, args⟩ := call
  cases args with
  | none => exact hname.strip_eq
  | some args =>
      have hhead : (name ++ .char ':' :: args.written).head? = name.head? := by
        rw [List.head?_append_of_ne_nil _ hname.ne_nil]
      have hlast : (name ++ .char ':' :: args.written).getLast? = args.written.getLast? := by
        have hne : args.written ≠ [] := by
          rw [WrittenArguments.written]
          split <;> simp [WrittenArguments.inside, QuotedText.written]
        rw [List.append_cons, List.getLast?_append, List.getLast?_eq_some_getLast hne]
        rfl
      apply Text.strip_eq_self_of_ends
      · intro c hc
        exact Text.isBlank_head hname.strip_eq (hhead ▸ hc)
      · intro c hc
        exact args.isBlank_ends (.inr (hlast ▸ hc))

theorem crosses_written (call : WrittenCall) (before : Option CodePoint) :
    Scan.Crosses Scan.bars {} before call.written {} := by
  obtain ⟨name, hname, args⟩ := call
  cases args with
  | none => exact hname.crosses before
  | some args =>
      refine (hname.crosses before).append (Scan.Crosses.cons ?_ ?_)
      · intro current
        simp [Scan.Cuts.cutsAt, Scan.bars]
      · have hstep : ∀ b, ScanState.step {} b ':' = {} := by
          intro b
          simp [ScanState.step, ScanState.inQuotes, isQuote]
        rw [hstep]
        exact args.crosses_arguments (by decide)

theorem parse_written (call : WrittenCall) : FilterCall.parse call.written = call.call := by
  obtain ⟨name, hname, args⟩ := call
  cases args with
  | none =>
      simp [FilterCall.parse, written, WrittenCall.call, FilterCall.separator?_name hname,
        hname.strip_eq]
  | some args =>
      simp [FilterCall.parse, written, WrittenCall.call, FilterCall.separator?_name_colon hname,
        hname.strip_eq, args.parseArgs_written]

theorem piecesFrom_chain (calls : List WrittenCall) (before : Option CodePoint) (current : Text) :
    Scan.piecesFrom Scan.bars {} before current
      (calls.flatMap fun call => .char '|' :: call.written) =
      (current.reverse :: calls.map written, {}) := by
  induction calls generalizing before current with
  | nil => simp [Scan.piecesFrom]
  | cons call rest ih =>
      have hcut : Scan.bars.cutsAt {} before current '|' = true := by
        simp [Scan.Cuts.cutsAt, Scan.bars, ScanState.isTopLevel, isQuote]
      rw [List.flatMap_cons, List.cons_append, Scan.piecesFrom, if_pos hcut,
        (call.crosses_written (some (.char '|'))).piecesFrom_append, ih]
      simp

end WrittenCall

/-- Reading undoes writing: for a variable that the scanner leaves whole, and any spelling of any
chain of filters, the expression is exactly the one that was written. -/
theorem Expression.parse_write (variableName : Text) (calls : List WrittenCall)
    (hwhole : (Scan.split Scan.bars variableName).1 = [variableName])
    (hbalanced : (Scan.split Scan.bars variableName).2.isBalanced = true) :
    Expression.parse (Expression.write variableName calls) =
      { variableName, filters := calls.map WrittenCall.call } := by
  have hvariable := Scan.piecesFrom_of_split_eq_singleton hwhole
  rw [ScanState.eq_of_isBalanced hbalanced] at hvariable
  have hpieces : Scan.piecesFrom Scan.bars {} none [] (Expression.write variableName calls) =
      ([variableName] ++ calls.map WrittenCall.written, {}) := by
    rw [Expression.write, Scan.piecesFrom_append_of_singleton hvariable,
      WrittenCall.piecesFrom_chain]
    simp
  have htidyVariable : Scan.tidy [variableName] = [variableName] := by
    rw [Scan.split, hvariable] at hwhole
    exact hwhole
  have htidyCalls : Scan.tidy (calls.map WrittenCall.written) =
      calls.map WrittenCall.written := by
    apply Scan.tidy_eq_self
    · intro piece hpiece
      obtain ⟨call, -, rfl⟩ := List.mem_map.mp hpiece
      exact call.strip_written
    · intro piece hpiece
      obtain ⟨call, -, rfl⟩ := List.mem_map.mp hpiece
      exact call.written_ne_nil
  have hsplit : (Scan.split Scan.bars (Expression.write variableName calls)).1 =
      variableName :: calls.map WrittenCall.written := by
    rw [Scan.split, hpieces]
    simp only [Scan.tidy_append, htidyVariable, htidyCalls]
    rfl
  rw [Expression.parse, hsplit]
  simp [Function.comp_def, WrittenCall.parse_written]

/-- A bar between parentheses belongs to the variable; a bar, an escaped quote and a parenthesis
belong to arguments, which are separated in both ways. -/
theorem Expression.parse_write_mixed :
    (Scan.split Scan.bars "a(b|c)").1 = [("a(b|c)" : Text)] ∧
      (Scan.split Scan.bars "a(b|c)").2.isBalanced = true ∧
      Expression.parse "a(b|c)|replace:('x|y','it\\'s':\")\")|upper" =
        { variableName := "a(b|c)"
          filters :=
            [{ name := "replace", args := ["x|y", "it\\'s", ")"] }, { name := "upper" }] } :=
  ⟨by decide, by decide,
    Expression.parse_write "a(b|c)"
      [{ name := "replace"
         isName := ⟨by decide, by decide, by simp, by decide⟩
         args := some
          { first := ⟨"x|y", '\'', by decide, QuotedText.escaped_of_take (by decide), by decide⟩
            others :=
              [(.comma, ⟨"it\\'s", '\'', by decide,
                  QuotedText.escaped_of_take (by decide), by decide⟩),
                (.colon, ⟨")", '"', by decide,
                  QuotedText.escaped_of_take (by decide), by decide⟩)]
            wrapped := true } },
        { name := "upper", isName := ⟨by decide, by decide, by simp, by decide⟩ }]
      (by decide) (by decide)⟩

end Clippings
