import Clippings.Proofs.Number.Digits
import Clippings.Yaml.Writer
import Mathlib.Data.List.Infix

namespace Clippings

namespace Text

def StartsUnmarked (text : Text) : Prop :=
    ∀ more, ¬ [.char '-', .char '-', .char '-'] <+: text ++ more

/-- No line behind the first one starts with three hyphens, whatever follows the text. -/
def IsUnmarked (text : Text) : Prop :=
  ∀ before after, text = before ++ .char '\n' :: after → StartsUnmarked after

theorem startsUnmarked_cons {c : CodePoint} (hc : c ≠ '-') (rest : Text) :
    StartsUnmarked (c :: rest) := by
  intro more hprefix
  exact hc (List.cons_prefix_cons.mp hprefix).1.symm

theorem startsUnmarked_item (rest : Text) : StartsUnmarked (.char '-' :: .char ' ' :: rest) := by
  intro more hprefix
  simpa using (List.cons_prefix_cons.mp hprefix).2

theorem StartsUnmarked.append {s : Text} (h : StartsUnmarked s) (t : Text) :
    StartsUnmarked (s ++ t) := by
  intro more
  rw [List.append_assoc]
  exact h (t ++ more)

theorem isUnmarked_of_not_mem {s : Text} (h : .char '\n' ∉ s) : IsUnmarked s := by
  rintro before after rfl
  simp at h

theorem IsUnmarked.append {s t : Text} (hs : IsUnmarked s) (ht : IsUnmarked t) :
    IsUnmarked (s ++ t) := by
  intro before after h
  -- The line feed is in the second text or in the first.
  rcases List.append_eq_append_iff.mp h with ⟨middle, rfl, rfl⟩ | ⟨middle, rfl, hmiddle⟩
  · exact ht middle after rfl
  · cases middle with
    | nil => exact ht [] after hmiddle.symm
    | cons c rest =>
        obtain ⟨rfl, rfl⟩ := List.cons.inj hmiddle
        exact (hs before rest rfl).append t

theorem IsUnmarked.cons {c : CodePoint} (hc : c ≠ '\n') {s : Text} (hs : IsUnmarked s) :
    IsUnmarked (c :: s) :=
  (isUnmarked_of_not_mem (s := [c]) (by simpa using hc.symm)).append hs

theorem IsUnmarked.newLine {s : Text} (hs : IsUnmarked s) (hstart : StartsUnmarked s) :
    IsUnmarked (.char '\n' :: s) := by
  intro before after h
  cases before with
  | nil => exact (List.cons.inj h).2 ▸ hstart
  | cons c rest => exact hs rest after (List.cons.inj h).2

theorem isUnmarked_of_no_hyphen {s : Text} (hhyphen : .char '-' ∉ s)
    (hlast : s.getLast? ≠ some (.char '\n')) :
    IsUnmarked s := by
  rintro before after rfl
  cases after with
  | nil => simp at hlast
  | cons c rest =>
      apply startsUnmarked_cons
      rintro rfl
      simp at hhyphen

end Text

namespace Yaml

open Text

theorem isUnmarked_indentation (indent : Nat) : IsUnmarked (indentation indent) := by
  apply isUnmarked_of_not_mem
  simp [indentation]

theorem isUnmarked_append_indentation {s : Text} (hs : .char '-' ∉ s) {indent : Nat}
    (h : 0 < indent) :
    IsUnmarked (s ++ indentation indent) := by
  obtain ⟨less, rfl⟩ : ∃ less, indent = less + 1 := ⟨indent - 1, by omega⟩
  apply isUnmarked_of_no_hyphen
  · simp [indentation, hs]
  · simp [indentation, List.replicate_succ']

theorem isUnmarked_newLine {indent : Nat} (h : 0 < indent) : IsUnmarked (newLine indent) :=
  isUnmarked_append_indentation (s := [.char '\n']) (by decide) h

theorem isUnmarked_gap {room : Room} (h : 0 < room.indent) (column spaces : Nat) :
    IsUnmarked (room.gap column spaces) := by
  unfold Room.gap
  split
  · exact isUnmarked_newLine h
  · exact isUnmarked_indentation spaces

theorem isUnmarked_writeBreaks {room : Room} (h : 0 < room.indent) {breaks : Text}
    (hbreaks : ∀ c ∈ breaks, isBreak c = true) : IsUnmarked (writeBreaks room breaks) := by
  have hhyphen : .char '-' ∉ breaks := by
    intro hmem
    exact absurd (hbreaks _ hmem) (by decide)
  unfold writeBreaks
  split
  · exact isUnmarked_of_not_mem (by simp)
  · apply isUnmarked_append_indentation _ h
    split <;> simpa using hhyphen

theorem isUnmarked_writePlain {room : Room} (h : 0 < room.indent) {text : Text}
    (htext : .char '\n' ∉ text) (column spaces : Nat) :
    IsUnmarked (writePlain room column spaces text) := by
  fun_induction writePlain room column spaces text with
  | case1 column spaces => exact isUnmarked_indentation spaces
  | case2 column spaces rest ih => exact ih (by simpa using htext)
  | case3 column spaces c rest hc ih =>
      obtain ⟨hfeed, hrest⟩ : .char '\n' ≠ c ∧ .char '\n' ∉ rest := by simpa using htext
      exact (isUnmarked_gap h column spaces).append ((ih hrest).cons hfeed.symm)

theorem isUnmarked_writeSingle {room : Room} (h : 0 < room.indent) (column : Nat) (started : Bool)
    (spaces : Nat) {breaks : Text} (hbreaks : ∀ c ∈ breaks, isBreak c = true) (text : Text) :
    IsUnmarked (writeSingle room column started spaces breaks text) := by
  fun_induction writeSingle room column started spaces breaks text with
  | case1 column started spaces breaks =>
      exact (isUnmarked_indentation spaces).append (isUnmarked_writeBreaks h hbreaks)
  | case2 column started spaces breaks rest =>
      rename_i ih
      exact (isUnmarked_writeBreaks h hbreaks).append (ih (by simp))
  | case3 column started spaces breaks c rest wide behind hspace hbreak ih =>
      have hgap : IsUnmarked (wide.gap column spaces) := @isUnmarked_gap wide h column spaces
      apply hgap.append (ih _)
      intro d hd
      rcases List.mem_append.mp hd with hold | hnew
      · exact hbreaks d hold
      · rw [List.mem_singleton.mp hnew]
        exact hbreak
  | case4 column started spaces breaks c rest wide behind hspace hbreak behind' written ih =>
      have hgap : IsUnmarked (wide.gap column spaces) := @isUnmarked_gap wide h column spaces
      have hfeed : '\n' ≠ c := by
        rintro rfl
        exact hbreak (by decide)
      have hwritten : IsUnmarked written := by
        apply isUnmarked_of_not_mem
        unfold written
        split <;> simp [hfeed]
      exact ((hgap.append (isUnmarked_writeBreaks h hbreaks)).append hwritten).append (ih (by simp))

theorem not_mem_capitalHex (width n : Nat) : .char '\n' ∉ capitalHex width n := by
  intro hmem
  obtain ⟨c, hc, hfeed⟩ := List.mem_map.mp hmem
  obtain ⟨d, hd, rfl⟩ := Text.exists_digit_of_mem_hexDigits hc
  have hdigits : ∀ d < 16, (Nat.digitChar d).toUpper ≠ '\n' := by decide
  exact hdigits d hd (CodePoint.char.inj hfeed)

theorem not_mem_escape (c : CodePoint) : .char '\n' ∉ escape c := by
  have hletters : ∀ entry ∈ letterEscapes, entry.2 ≠ '\n' := by decide
  unfold escape
  simp only
  split
  · next letter hletter =>
    obtain ⟨before, after, hentries, -⟩ := List.lookup_eq_some_iff.mp hletter
    have hne := hletters (c.toNat, letter) (by rw [hentries]; simp)
    simpa using hne.symm
  · split
    · simp [not_mem_capitalHex]
    · split <;> simp [not_mem_capitalHex]

theorem isUnmarked_brokenLine {room : Room} (h : 0 < room.indent) (next : Option CodePoint) :
    IsUnmarked (brokenLine room next) := by
  unfold brokenLine
  apply ((isUnmarked_newLine h).cons (by decide)).append
  split <;> exact isUnmarked_of_not_mem (by decide)

theorem ne_of_isBare {c : CodePoint} (h : isBare c = true) : c ≠ '\n' := by
  rintro rfl
  exact absurd h (by decide)

theorem isUnmarked_writeDouble {room : Room} (h : 0 < room.indent) (column : Nat)
    (started bare : Bool) (text : Text) :
    IsUnmarked (writeDouble room column started bare text) := by
  fun_induction writeDouble room column started bare text with
  | case1 => exact isUnmarked_of_not_mem (by simp)
  | case2 column started bare c rest inside hbare hfold line ih =>
      exact (isUnmarked_brokenLine h _).append (ih.cons (ne_of_isBare hbare))
  | case3 column started bare c rest inside hbare hfold ih => exact ih.cons (ne_of_isBare hbare)
  | case4 column started bare c rest inside hbare behind hfold indent ih =>
      exact ((isUnmarked_of_not_mem (not_mem_escape c)).append (isUnmarked_brokenLine h _)).append
        ih
  | case5 column started bare c rest inside hbare behind hfold ih =>
      exact (isUnmarked_of_not_mem (not_mem_escape c)).append ih

theorem not_mem_of_isPlainText {text : Text} (h : isPlainText text = true) : .char '\n' ∉ text := by
  intro hmem
  have hmultiline : isMultiline text = true := List.any_eq_true.mpr ⟨'\n', hmem, by decide⟩
  simp [isPlainText, hmultiline] at h

theorem isPlainText_of_styleOf {tag : Tag} {isKey : Bool} {text : Text}
    (h : styleOf tag isKey text = .plain) : isPlainText text = true := by
  unfold styleOf at h
  split at h
  · next hplain => exact (Bool.and_eq_true_iff.mp hplain).2
  · split at h <;> cases h

theorem isUnmarked_writeScalar {room : Room} (h : 0 < room.indent) (column : Nat) (tag : Tag)
    (isKey : Bool) (text : Text) :
    IsUnmarked (writeScalar room column (styleOf tag isKey text) text) := by
  cases hstyle : styleOf tag isKey text with
  | plain =>
      have hfeed := not_mem_of_isPlainText (isPlainText_of_styleOf hstyle)
      exact isUnmarked_writePlain h hfeed column 0
  | single =>
      have hinside : IsUnmarked (writeSingle room (column + 1) false 0 [] text) :=
        isUnmarked_writeSingle h _ _ _ (by simp) text
      exact (hinside.append (isUnmarked_of_not_mem (by decide))).cons (by decide)
  | double =>
      have hinside := isUnmarked_writeDouble h (column + 1) false false text
      exact (hinside.append (isUnmarked_of_not_mem (by decide))).cons (by decide)

theorem isUnmarked_writeTagged {room : Room} (h : 0 < room.indent) (column : Nat) (isKey : Bool)
    {tag : Tag} (htag : .char '\n' ∉ tag.shortName) (text : Text) :
    IsUnmarked (writeTagged room column isKey tag text) := by
  simp only [writeTagged]
  split
  · exact isUnmarked_writeScalar h column tag isKey text
  · exact (isUnmarked_of_not_mem htag).append
      ((isUnmarked_writeScalar h _ tag isKey text).cons (by decide))

theorem isUnmarked_writeScalarAt (indent : Nat) (spot : Spot) {tag : Tag}
    (htag : .char '\n' ∉ tag.shortName) (text : Text) :
    IsUnmarked (writeScalarAt indent spot tag text) := by
  apply IsUnmarked.append
  · cases spot <;> exact isUnmarked_of_not_mem (by simp [Spot.blank])
  · exact isUnmarked_writeTagged (Nat.succ_pos _) _ _ htag text

theorem writePlain_of_not_folds {room : Room} (h : room.folds = false) (column spaces : Nat)
    (text : Text) : writePlain room column spaces text = indentation spaces ++ text := by
  fun_induction writePlain room column spaces text with
  | case1 => simp
  | case2 column spaces rest ih =>
      rw [ih, indentation, List.replicate_succ', List.append_assoc]
      rfl
  | case3 column spaces c rest hc ih =>
      rw [ih, Room.gap, h]
      simp [indentation]

theorem startsUnmarked_colon {key : Text} (hne : key ≠ [])
    (hkey : ¬ [.char '-', .char '-', .char '-'] <+: key)
    (more : Text) : StartsUnmarked (key ++ .char ':' :: more) := by
  match key, hne with
  | [c], _ => simp [StartsUnmarked, List.cons_prefix_cons]
  | [c, d], _ => simp [StartsUnmarked, List.cons_prefix_cons]
  | c :: d :: e :: rest, _ => simpa [StartsUnmarked, List.cons_prefix_cons] using hkey

theorem not_prefix_of_isPlainText {text : Text} (h : isPlainText text = true) :
    ¬ [.char '-', .char '-', .char '-'] <+: text := by
  intro hprefix
  have hstart : Text.startsWith text [.char '-', .char '-', .char '-'] = true :=
    List.isPrefixOf_iff_prefix.mpr hprefix
  simp [isPlainText, misleads, hstart] at h

theorem startsUnmarked_simpleKey {room : Room} (hroom : room.folds = false) (column : Nat)
    {key : Text} (hkey : isSimpleKey .text key = true) (more : Text) :
    StartsUnmarked (writeTagged room column true .text key ++ .char ':' :: more) := by
  have hne : key ≠ [] := by
    rintro rfl
    simp [isSimpleKey] at hkey
  simp only [writeTagged, decide_true, Bool.or_true, if_true]
  cases hstyle : styleOf .text true key with
  | plain =>
      rw [writeScalar, writePlain_of_not_folds hroom]
      exact startsUnmarked_colon hne (not_prefix_of_isPlainText (isPlainText_of_styleOf hstyle))
        more
  | single => exact startsUnmarked_cons (by decide) _
  | double => exact startsUnmarked_cons (by decide) _

theorem startsUnmarked_indentation (indent : Nat) {s : Text} (hs : StartsUnmarked s) :
    StartsUnmarked (indentation indent ++ s) := by
  cases indent with
  | zero => exact hs
  | succ indent => exact startsUnmarked_cons (by decide) _

/-- What stands before the first line of a collection, or between its lines. -/
def IsLead (indent : Nat) (lead : Text) : Prop := .char '\n' ∉ lead ∨ lead = newLine indent

theorem IsLead.isUnmarked_append {indent : Nat} {lead s : Text} (hlead : IsLead indent lead)
    (hs : IsUnmarked s) (hstart : StartsUnmarked s) : IsUnmarked (lead ++ s) := by
  rcases hlead with hfeed | rfl
  · exact (isUnmarked_of_not_mem hfeed).append hs
  · exact ((isUnmarked_indentation indent).append hs).newLine
      (startsUnmarked_indentation indent hstart)

def WritesUnmarked (indent : Nat) (spot : Spot) (value : Value) : Prop :=
  ∃ text, writeNode indent spot value = .ok text ∧ IsUnmarked text

theorem writesUnmarked_text (indent : Nat) (spot : Spot) (s : Text) :
    WritesUnmarked indent spot (.text s) :=
  ⟨_, by rw [writeNode], isUnmarked_writeScalarAt indent spot (by decide) s⟩

theorem exists_writeItems {indent : Nat} {lead : Text} (hlead : IsLead indent lead)
    (items : List Text) :
    ∃ text, writeItems indent lead (items.map .text) = .ok text ∧ IsUnmarked text := by
  induction items generalizing lead with
  | nil => exact ⟨[], by rw [List.map_nil, writeItems], isUnmarked_of_not_mem (by simp)⟩
  | cons item rest ih =>
      obtain ⟨others, hothers, hunmarked⟩ := ih (.inr rfl)
      refine ⟨lead ++ .char '-' :: writeScalarAt indent .behindMark .text item ++ others, ?_, ?_⟩
      · rw [List.map_cons, writeItems, writeNode, hothers]
        rfl
      · have hitem : IsUnmarked (writeScalarAt indent .behindMark .text item) :=
          isUnmarked_writeScalarAt indent .behindMark (by decide) item
        exact (hlead.isUnmarked_append (hitem.cons (by decide)) (startsUnmarked_item _)).append
          hunmarked

theorem simpleKey?_text (indent : Nat) (name : Text) :
    simpleKey? indent (.text name) =
      .ok (if isSimpleKey .text name then
        some (writeTagged { indent := indent + levelWidth, folds := false } indent true .text name)
      else none) := by
  simp only [simpleKey?, scalar?]
  split <;> rfl

theorem exists_writeEntries {indent : Nat} {lead : Text} (hlead : IsLead indent lead)
    {entries : Entries} (hkeys : ∀ entry ∈ entries, ∃ key, entry.1 = .text key)
    (hvalues : ∀ entry ∈ entries, ∀ spot, spot ≠ .root → WritesUnmarked indent spot entry.2) :
    ∃ text, writeEntries indent lead entries = .ok text ∧ IsUnmarked text := by
  induction entries generalizing lead with
  | nil => exact ⟨[], by rw [writeEntries], isUnmarked_of_not_mem (by simp)⟩
  | cons entry rest ih =>
      obtain ⟨key, value⟩ := entry
      obtain ⟨⟨name, hname⟩, hrestKeys⟩ := List.forall_mem_cons.mp hkeys
      obtain ⟨hvalue, hrestValues⟩ := List.forall_mem_cons.mp hvalues
      obtain rfl : key = .text name := hname
      obtain ⟨others, hothers, hunmarked⟩ := ih (.inr rfl) hrestKeys hrestValues
      -- The key stands on the line of its value, or behind a question mark on lines of its own.
      by_cases hkey : isSimpleKey .text name = true
      · let room : Room := { indent := indent + levelWidth, folds := false }
        let written := writeTagged room indent true .text name
        obtain ⟨text, htext, htextUnmarked⟩ :=
          hvalue (.behindKey (indent + written.length + 1)) (by simp)
        refine ⟨lead ++ written ++ .char ':' :: text ++ others, ?_, ?_⟩
        · rw [writeEntries, simpleKey?_text, if_pos hkey]
          simp only [bind, Except.bind, htext, hothers, written, room]
          rfl
        · have hwritten : IsUnmarked written :=
            isUnmarked_writeTagged (Nat.succ_pos _) _ _ (by decide) name
          have hfolds : room.folds = false := rfl
          have hstart := startsUnmarked_simpleKey hfolds indent hkey text
          rw [List.append_assoc lead]
          exact (hlead.isUnmarked_append (hwritten.append (htextUnmarked.cons (by decide)))
            hstart).append hunmarked
      · let written := writeScalarAt indent .behindMark .text name
        obtain ⟨text, htext, htextUnmarked⟩ := hvalue .behindMark (by simp)
        refine ⟨lead ++ .char '?' :: written ++ newLine indent ++ .char ':' :: text ++
          others, ?_, ?_⟩
        · rw [writeEntries, simpleKey?_text, if_neg hkey, writeNode]
          simp only [bind, Except.bind, htext, hothers, written]
          rfl
        · have hwritten : IsUnmarked written :=
            isUnmarked_writeScalarAt indent .behindMark (by decide) name
          have hvalueLine : IsUnmarked (newLine indent ++ .char ':' :: text) :=
            IsLead.isUnmarked_append (.inr rfl) (htextUnmarked.cons (by decide))
              (startsUnmarked_cons (by decide) text)
          rw [List.append_assoc _ (newLine indent)]
          exact ((hlead.isUnmarked_append (hwritten.cons (by decide))
            (startsUnmarked_cons (by decide) written)).append hvalueLine).append hunmarked

end Yaml

end Clippings
