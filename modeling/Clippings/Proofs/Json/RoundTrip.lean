import Clippings.Filter.Builtin
import Clippings.Proofs.Json.Data
import Clippings.Proofs.Json.Leaves
import Clippings.Proofs.Value.Entries
/-!
What is written as JSON is read again. The reader is followed along the written text with any rest
behind it that does not go on with a number; the length of the written text is fuel enough.
-/

namespace Clippings

/-- JSON values without floating-point numbers: integers have no more digits than may be written,
and the keys of a mapping are texts that differ from one another. -/
inductive Value.IsJson : Value → Prop
  | null : IsJson .null
  | bool (b : Bool) : IsJson (.bool b)
  | int {n : Int} (digits : (Text.ofNat n.natAbs).length ≤ integerDigitLimit) : IsJson (.int n)
  | text (s : Text) : IsJson (.text s)
  | list {items : List Value} (members : ∀ item ∈ items, IsJson item) : IsJson (.list items)
  | map {entries : Entries} (keys : ∀ entry ∈ entries, ∃ key, entry.1 = .text key)
      (distinct : (entries.map (·.1)).Nodup) (values : ∀ entry ∈ entries, IsJson entry.2) :
      IsJson (.map entries)

theorem Value.IsJson.isPageData {value : Value} (h : value.IsJson) : value.IsPageData := by
  induction h with
  | null => exact .null
  | bool b => exact .bool b
  | int digits => exact .int digits
  | text s => exact .text s
  | list members ih => exact .list ih
  | map keys distinct values ih => exact .map keys ih

namespace Json

/-- A text with the head of a value, which is no blank, no byte order mark, and does not close a
list or a mapping. -/
def StartsValue (text : Text) : Prop :=
  ∃ c rest, text = c :: rest ∧ isSpace c = false ∧ c ≠ '\uFEFF' ∧ c ≠ ']' ∧ c ≠ '\x7d'

namespace StartsValue

theorem append {text : Text} (h : StartsValue text) (rest : Text) : StartsValue (text ++ rest) := by
  obtain ⟨c, tail, rfl, hc⟩ := h
  exact ⟨c, tail ++ rest, rfl, hc⟩

theorem join {text : Text} (h : StartsValue text) (sep : Text) (texts : List Text) :
    StartsValue (Text.join sep (text :: texts)) := by
  cases texts with
  | nil => exact h
  | cons next rest =>
      rw [Text.join, List.append_assoc]
      exact h.append _

theorem not_isSpace {text : Text} (h : StartsValue text) : ∀ c ∈ text.head?, isSpace c = false := by
  obtain ⟨c, tail, rfl, hspace, -⟩ := h
  intro d hd
  obtain rfl : c = d := Option.some.inj hd
  exact hspace

theorem head?_ne_bracket {text : Text} (h : StartsValue text) : text.head? ≠ some (.char ']') := by
  obtain ⟨c, tail, rfl, -, -, hbracket, -⟩ := h
  exact fun hc => hbracket (Option.some.inj hc)

theorem head?_ne_brace {text : Text} (h : StartsValue text) : text.head? ≠ some (.char '\x7d') := by
  obtain ⟨c, tail, rfl, -, -, -, hbrace⟩ := h
  exact fun hc => hbrace (Option.some.inj hc)

theorem head?_ne_byteOrderMark {text : Text} (h : StartsValue text) :
    text.head? ≠ some (.char '\uFEFF') := by
  obtain ⟨c, tail, rfl, -, hmark, -⟩ := h
  exact fun hc => hmark (Option.some.inj hc)

theorem length_pos {text : Text} (h : StartsValue text) : 0 < text.length := by
  obtain ⟨c, tail, rfl, -⟩ := h
  exact Nat.succ_pos _

end StartsValue

variable {room : Nat}

/-- Wherever a text stands in front of something that does not go on with a number, it is read as a
value. -/
structure Reads (room : Nat) (text : Text) (value : Value) : Prop where
  starts : StartsValue text
  read : ∀ {fuel : Nat} (position : Nat) {rest : Text}, text.length ≤ fuel → EndsNumber rest →
    readValue room fuel ⟨text ++ rest, position⟩ = .ok (value, ⟨rest, position + text.length⟩)

theorem reads_of_readValue_succ {text : Text} {value : Value} (starts : StartsValue text)
    (h : ∀ (fuel position : Nat) {rest : Text}, EndsNumber rest →
      readValue room (fuel + 1) ⟨text ++ rest, position⟩ =
        .ok (value, ⟨rest, position + text.length⟩)) : Reads room text value where
  starts := starts
  read := by
    intro fuel position rest hfuel hrest
    have hpos : fuel ≠ 0 := by
      have := starts.length_pos
      omega
    obtain ⟨fuel, rfl⟩ := Nat.exists_eq_succ_of_ne_zero hpos
    exact h fuel position hrest

theorem reads_null : Reads room "null" .null :=
  reads_of_readValue_succ ⟨'n', _, rfl, by decide⟩ fun fuel position rest _ =>
    readValue_plain room fuel position _ (by decide)

theorem reads_bool (b : Bool) : Reads room (if b then "true" else "false") (.bool b) := by
  cases b with
  | true =>
      exact reads_of_readValue_succ ⟨'t', _, rfl, by decide⟩ fun fuel position rest _ =>
        readValue_plain room fuel position _ (by decide)
  | false =>
      exact reads_of_readValue_succ ⟨'f', _, rfl, by decide⟩ fun fuel position rest _ =>
        readValue_plain room fuel position _ (by decide)

theorem reads_printInt {n : Int} {text : Text} (htext : printInt n = .ok text) :
    Reads room text (.int n) := by
  obtain ⟨-, c, tail, -, rfl, hc⟩ := exists_printInt_eq_cons htext
  refine reads_of_readValue_succ
    ⟨c, tail, rfl, ?_, hc '\uFEFF' (by decide), hc ']' (by decide), hc '\x7d' (by decide)⟩
    fun fuel position rest hrest => readValue_printInt room fuel position htext hrest
  simp [isSpace, hc ' ' (by decide), hc '\t' (by decide), hc '\n' (by decide),
    hc '\r' (by decide)]

theorem reads_quote (s : Text) : Reads room (quote false s) (.text s) :=
  reads_of_readValue_succ ⟨'"', _, rfl, by decide⟩ fun fuel position rest _ =>
    readValue_quote room fuel position s rest

theorem skipSpace_lineBreak (layout : Layout) (level position : Nat) (text : Text)
    (htext : ∀ c ∈ text.head?, isSpace c = false) :
    Cursor.skipSpace ⟨lineBreak layout level ++ text, position⟩ =
      ⟨text, position + (lineBreak layout level).length⟩ :=
  skipSpace_append _ position (fun _ h => isSpace_of_mem_lineBreak h) htext

theorem endsNumber_lineBreak_append (layout : Layout) (level : Nat) {text : Text}
    (h : EndsNumber text) : EndsNumber (lineBreak layout level ++ text) := by
  rw [lineBreak]
  split
  · exact h
  · exact endsNumber_cons _ (by decide)

theorem readItems_last {fuel position : Nat} {cursor : Cursor} {item : Value} (layout : Layout)
    (level : Nat) (done : List Value) (rest : Text)
    (h : readValue room fuel cursor =
      .ok (item, ⟨lineBreak layout level ++ .char ']' :: rest, position⟩)) :
    readItems room (fuel + 1) cursor done =
      .ok (.list (done.reverse ++ [item]),
        ⟨rest, position + (lineBreak layout level).length + 1⟩) := by
  have hskip := skipSpace_lineBreak layout level position (.char ']' :: rest) (by simp [isSpace])
  rw [readItems, h]
  simp [bind, Except.bind, pure, Except.pure, hskip, Cursor.head?, Cursor.skip]

theorem readItems_next {fuel position : Nat} {cursor : Cursor} {item : Value} (layout : Layout)
    (level : Nat) (done : List Value) {next : Text} (hnext : StartsValue next)
    (h : readValue room fuel cursor =
      .ok (item, ⟨.char ',' :: (lineBreak layout level ++ next), position⟩)) :
    readItems room (fuel + 1) cursor done =
      readItems room fuel ⟨next, position + 1 + (lineBreak layout level).length⟩
        (item :: done) := by
  have hcomma := skipSpace_of_head (.char ',' :: (lineBreak layout level ++ next)) position
    (by simp [isSpace])
  have hskip := skipSpace_lineBreak layout level (position + 1) next hnext.not_isSpace
  rw [readItems, h]
  simp [bind, Except.bind, hcomma, Cursor.head?, Cursor.skip, hskip]

theorem readItems_join (layout : Layout) (level outer : Nat) {texts : List Text}
    {items : List Value} (h : List.Forall₂ (Reads room) texts items) (hne : texts ≠ []) {fuel : Nat}
    (position : Nat) (done : List Value) (rest : Text)
    (hfuel : (Text.join (.char ',' :: lineBreak layout level) texts).length < fuel) :
    readItems room fuel ⟨Text.join (.char ',' :: lineBreak layout level) texts ++
        (lineBreak layout outer ++ .char ']' :: rest), position⟩ done =
      .ok (.list (done.reverse ++ items),
        ⟨rest, position + (Text.join (.char ',' :: lineBreak layout level) texts).length +
          (lineBreak layout outer).length + 1⟩) := by
  induction h generalizing fuel position done with
  | nil => exact absurd rfl hne
  | @cons text item texts items hitem hitems ih =>
      obtain ⟨fuel, rfl⟩ := Nat.exists_eq_succ_of_ne_zero (Nat.ne_zero_of_lt hfuel)
      cases hitems with
      | nil =>
          rw [Text.join] at hfuel ⊢
          exact readItems_last layout outer done rest
            (hitem.read position (Nat.lt_succ_iff.mp hfuel)
              (endsNumber_lineBreak_append layout outer (endsNumber_cons _ (by decide))))
      | @cons next value texts items hnext hitems =>
          rw [Text.join] at hfuel ⊢
          simp only [List.length_append, List.length_cons] at hfuel
          have hstarts := (hnext.starts.join (.char ',' :: lineBreak layout level) texts).append
            (lineBreak layout outer ++ .char ']' :: rest)
          simp only [List.append_assoc, List.cons_append]
          rw [readItems_next layout level done hstarts
              (hitem.read position (by omega) (endsNumber_cons _ (by decide))),
            ih (by simp) _ (item :: done) (by omega)]
          simp [Nat.add_assoc, Nat.add_comm, Nat.add_left_comm]

theorem startsValue_bracket (layout : Layout) (level : Nat) (opening closing : CodePoint)
    (texts : List Text)
    (h : isSpace opening = false ∧ opening ≠ '\uFEFF' ∧ opening ≠ ']' ∧ opening ≠ '\x7d') :
    StartsValue (bracket layout level opening closing texts) := by
  rw [bracket]
  split
  · exact ⟨opening, [closing], rfl, h⟩
  · exact ⟨opening, _, rfl, h⟩

theorem reads_list (layout : Layout) (level : Nat) {texts : List Text} {items : List Value}
    (h : List.Forall₂ (Reads room) texts items) :
    Reads (room + 1) (bracket layout level (.char '[') (.char ']') texts) (.list items) where
  starts := startsValue_bracket layout level (.char '[') (.char ']') texts (by decide)
  read := by
    intro fuel position rest hfuel hrest
    have henter : Descent.jsonArray.enter (room + 1) = .ok room := Descent.enter_succ rfl room
    cases h with
    | nil =>
        obtain ⟨fuel, rfl⟩ := Nat.exists_eq_add_of_le' hfuel
        simp [bracket, readValue, henter, Except.mapError, bind, Except.bind, Cursor.skipSpace,
          Cursor.head?, Cursor.skip, isSpace]
    | @cons text item texts items hitem hitems =>
        have hitems := List.Forall₂.cons hitem hitems
        have hstarts := (hitem.starts.join (.char ',' :: lineBreak layout (level + 1)) texts).append
          (lineBreak layout level ++ .char ']' :: rest)
        have hskip := skipSpace_lineBreak layout (level + 1) (position + 1) _ hstarts.not_isSpace
        have hhead := hstarts.head?_ne_bracket
        rw [bracket, if_neg (by simp)] at hfuel ⊢
        simp only [List.length_append, List.length_cons, List.length_nil] at hfuel
        obtain ⟨fuel, rfl⟩ := Nat.exists_eq_succ_of_ne_zero (by omega : fuel ≠ 0)
        have hinside : (Text.join (.char ',' :: lineBreak layout (level + 1))
          (text :: texts)).length <
            fuel := by omega
        have hread := readItems_join layout (level + 1) level hitems (by simp)
          (position + 1 + (lineBreak layout (level + 1)).length) [] rest hinside
        simp only [List.append_assoc, List.cons_append, List.nil_append]
        rw [readValue, henter]
        simp only [Except.mapError, bind, Except.bind, hskip, Cursor.head?, hhead, if_false, hread]
        simp [Nat.add_assoc, Nat.add_comm, Nat.add_left_comm]

/-- A text that is read as an entry: a key between quotes, a colon, and the text of the value. -/
def ReadsEntry (room : Nat) (layout : Layout) (text : Text) (entry : Value × Value) : Prop :=
  ∃ key valueText, text = quote false key ++ (colon layout ++ valueText) ∧
    entry.1 = .text key ∧ Reads room valueText entry.2

theorem skipSpace_colon (layout : Layout) (position : Nat) {text : Text} (h : StartsValue text) :
    (Cursor.skip ⟨colon layout ++ text, position⟩ 1).skipSpace =
      ⟨text, position + (colon layout).length⟩ := by
  rw [colon]
  split
  · exact skipSpace_append [.char ' '] (position + 1) (by simp [isSpace]) h.not_isSpace
  · exact skipSpace_of_head text (position + 1) h.not_isSpace

theorem readEntries_entry (layout : Layout) {fuel : Nat} (position : Nat) (key : Text)
    {text : Text} {value : Value} (done : Entries) {rest : Text} (h : Reads room text value)
    (hfuel : text.length ≤ fuel) (hrest : EndsNumber rest) {after : Cursor}
    (hafter : Cursor.skipSpace ⟨rest, position + (quote false key).length +
      (colon layout).length + text.length⟩ = after) :
    readEntries room (fuel + 1) ⟨quote false key ++ (colon layout ++ (text ++ rest)),
      position⟩ done =
      if after.head? = some (.char '\x7d') then
        .ok (.map (done.insert (.text key) value), after.skip 1)
      else if after.head? ≠ some (.char ',') then .error (.fault .expectedComma after.position)
      else readEntries room fuel (after.skip 1).skipSpace (done.insert (.text key) value) := by
  have hkeyFuel : key.length <
      (key.flatMap (escapeChar false) ++ .char '"' :: (colon layout ++ (text ++ rest))).length +
        1 := by
    have hlength := length_le_escaped key
    rw [List.length_append]
    omega
  have hkey := readText_escaped position (position + 1) key (colon layout ++ (text ++ rest)) []
    hkeyFuel
  have hlength : position + 1 + (key.flatMap (escapeChar false)).length + 1 =
      position + (quote false key).length := by
    simp [quote, Nat.add_assoc, Nat.add_comm, Nat.add_left_comm]
  have hcolon (p : Nat) : Cursor.skipSpace ⟨colon layout ++ (text ++ rest), p⟩ =
      ⟨colon layout ++ (text ++ rest), p⟩ := by
    refine skipSpace_of_head _ p ?_
    rw [colon]
    split <;> simp [isSpace]
  have hhead : (colon layout ++ (text ++ rest)).head? = some (.char ':') := by
    rw [colon]
    split <;> rfl
  have hvalue := h.read (position + (quote false key).length + (colon layout).length) hfuel hrest
  rw [hlength] at hkey
  rw [quote, List.cons_append, List.cons_append, List.append_assoc, List.singleton_append,
    readEntries]
  simp only [hkey, bind, Except.bind, hcolon, Cursor.head?, hhead,
    skipSpace_colon layout _ (h.starts.append rest), hvalue, hafter]
  rfl

theorem readEntries_last (layout : Layout) (level : Nat) {fuel : Nat} (position : Nat) {text : Text}
    {entry : Value × Value} (done : Entries) (rest : Text) (h : ReadsEntry room layout text entry)
    (hfuel : text.length ≤ fuel) :
    readEntries room (fuel + 1) ⟨text ++ (lineBreak layout level ++ .char '\x7d' :: rest),
      position⟩ done =
      .ok (.map (done.insert entry.1 entry.2),
        ⟨rest, position + text.length + (lineBreak layout level).length + 1⟩) := by
  obtain ⟨key, valueText, rfl, hkey, hvalue⟩ := h
  simp only [List.length_append] at hfuel
  rw [List.append_assoc, List.append_assoc,
    readEntries_entry layout position key done hvalue (by omega)
      (endsNumber_lineBreak_append layout level (endsNumber_cons _ (by decide)))
      (skipSpace_lineBreak layout level _ _ (by simp [isSpace])), hkey]
  simp [Cursor.head?, Cursor.skip, Nat.add_assoc]

theorem readEntries_next (layout : Layout) (level : Nat) {fuel : Nat} (position : Nat) {text : Text}
    {entry : Value × Value} (done : Entries) {next : Text} (h : ReadsEntry room layout text entry)
    (hfuel : text.length ≤ fuel) (hnext : StartsValue next) :
    readEntries room (fuel + 1) ⟨text ++ .char ',' :: (lineBreak layout level ++ next),
      position⟩ done =
      readEntries room fuel ⟨next, position + text.length + 1 + (lineBreak layout level).length⟩
        (done.insert entry.1 entry.2) := by
  obtain ⟨key, valueText, rfl, hkey, hvalue⟩ := h
  simp only [List.length_append] at hfuel
  rw [List.append_assoc, List.append_assoc,
    readEntries_entry layout position key done hvalue (by omega) (endsNumber_cons _ (by decide))
      (skipSpace_of_head _ _ (by simp [isSpace])), hkey]
  simp [Cursor.head?, Cursor.skip, skipSpace_lineBreak layout level _ _ hnext.not_isSpace,
    Nat.add_assoc]

theorem ReadsEntry.starts {layout : Layout} {text : Text} {entry : Value × Value}
    (h : ReadsEntry room layout text entry) : StartsValue text := by
  obtain ⟨key, valueText, rfl, -⟩ := h
  have hkey : Reads room (quote false key) (.text key) := reads_quote key
  exact hkey.starts.append _

theorem readEntries_join (layout : Layout) (level outer : Nat) {texts : List Text}
    {entries : Entries} (h : List.Forall₂ (ReadsEntry room layout) texts entries) (hne : texts ≠ [])
    {fuel : Nat} (position : Nat) (done : Entries) (rest : Text)
    (hkeys : ∀ entry ∈ done ++ entries, ∃ key, entry.1 = .text key)
    (hdistinct : ((done ++ entries).map (·.1)).Nodup)
    (hfuel : (Text.join (.char ',' :: lineBreak layout level) texts).length < fuel) :
    readEntries room fuel ⟨Text.join (.char ',' :: lineBreak layout level) texts ++
        (lineBreak layout outer ++ .char '\x7d' :: rest), position⟩ done =
      .ok (.map (done ++ entries),
        ⟨rest, position + (Text.join (.char ',' :: lineBreak layout level) texts).length +
          (lineBreak layout outer).length + 1⟩) := by
  induction h generalizing fuel position done with
  | nil => exact absurd rfl hne
  | @cons text entry texts entries hentry hentries ih =>
      obtain ⟨fuel, rfl⟩ := Nat.exists_eq_succ_of_ne_zero (Nat.ne_zero_of_lt hfuel)
      have hinsert := Entries.insert_of_nodup (hkeys entry (by simp)) hdistinct
      cases hentries with
      | nil =>
          rw [Text.join] at hfuel ⊢
          rw [readEntries_last layout outer position done rest hentry (Nat.lt_succ_iff.mp hfuel),
            hinsert]
      | @cons next other texts entries hnext hentries =>
          rw [Text.join] at hfuel ⊢
          simp only [List.length_append, List.length_cons] at hfuel
          have hstarts := (hnext.starts.join (.char ',' :: lineBreak layout level) texts).append
            (lineBreak layout outer ++ .char '\x7d' :: rest)
          simp only [List.append_assoc, List.cons_append]
          rw [readEntries_next layout level position done hentry (by omega) hstarts, hinsert,
            ih (by simp) _ _ (by simpa using hkeys) (by simpa using hdistinct) (by omega)]
          simp [Nat.add_assoc, Nat.add_comm, Nat.add_left_comm]

theorem reads_map (layout : Layout) (level : Nat) {texts : List Text} {entries : Entries}
    (h : List.Forall₂ (ReadsEntry room layout) texts entries)
    (hkeys : ∀ entry ∈ entries, ∃ key, entry.1 = .text key)
    (hdistinct : (entries.map (·.1)).Nodup) :
    Reads (room + 1) (bracket layout level '\x7b' '\x7d' texts) (.map entries) where
  starts := startsValue_bracket layout level '\x7b' '\x7d' texts (by decide)
  read := by
    intro fuel position rest hfuel hrest
    have henter : Descent.jsonObject.enter (room + 1) = .ok room := Descent.enter_succ rfl room
    cases h with
    | nil =>
        obtain ⟨fuel, rfl⟩ := Nat.exists_eq_add_of_le' hfuel
        simp [bracket, readValue, henter, Except.mapError, bind, Except.bind, Cursor.skipSpace,
          Cursor.head?, Cursor.skip, isSpace]
    | @cons text entry texts entries hentry hentries =>
        have hentries := List.Forall₂.cons hentry hentries
        have hstarts := (hentry.starts.join (.char ',' :: lineBreak layout (level + 1))
          texts).append
          (lineBreak layout level ++ .char '\x7d' :: rest)
        have hskip := skipSpace_lineBreak layout (level + 1) (position + 1) _ hstarts.not_isSpace
        have hhead := hstarts.head?_ne_brace
        rw [bracket, if_neg (by simp)] at hfuel ⊢
        simp only [List.length_append, List.length_cons, List.length_nil] at hfuel
        obtain ⟨fuel, rfl⟩ := Nat.exists_eq_succ_of_ne_zero (by omega : fuel ≠ 0)
        have hinside : (Text.join (.char ',' :: lineBreak layout (level + 1))
          (text :: texts)).length <
            fuel := by omega
        have hread := readEntries_join layout (level + 1) level hentries (by simp)
          (position + 1 + (lineBreak layout (level + 1)).length) [] rest hkeys hdistinct hinside
        simp only [List.append_assoc, List.cons_append, List.nil_append] at hread ⊢
        rw [readValue, henter]
        simp only [Except.mapError, bind, Except.bind, hskip, Cursor.head?, hhead, if_false, hread]
        simp [Nat.add_assoc, Nat.add_comm, Nat.add_left_comm]

theorem forall₂_reads_of_writeItems {layout : Layout} {level : Nat} {items : List Value}
    {texts : List Text} (htexts : writeItems layout room level items = .ok texts)
    (h : ∀ item ∈ items, ∀ text, write layout room level item = .ok text → Reads room text item) :
    List.Forall₂ (Reads room) texts items := by
  induction items generalizing texts with
  | nil =>
      rw [writeItems] at htexts
      obtain rfl := Except.ok.inj htexts
      exact .nil
  | cons item rest ih =>
      obtain ⟨hitem, hrest⟩ := List.forall_mem_cons.mp h
      rw [writeItems] at htexts
      obtain ⟨text, htext, htexts⟩ := Except.exists_of_bind_eq_ok htexts
      obtain ⟨more, hmore, htexts⟩ := Except.exists_of_bind_eq_ok htexts
      obtain rfl := Except.ok.inj htexts
      exact .cons (hitem text htext) (ih hmore hrest)

theorem forall₂_readsEntry_of_writeEntries {layout : Layout} (hlayout : layout.asciiOnly = false)
    {level : Nat} {entries : Entries} {texts : List Text}
    (htexts : writeEntries layout room level entries = .ok texts)
    (hkeys : ∀ entry ∈ entries, ∃ key, entry.1 = .text key)
    (h : ∀ entry ∈ entries, ∀ text, write layout room level entry.2 = .ok text →
      Reads room text entry.2) :
    List.Forall₂ (ReadsEntry room layout) texts entries := by
  induction entries generalizing texts with
  | nil =>
      rw [writeEntries] at htexts
      obtain rfl := Except.ok.inj htexts
      exact .nil
  | cons entry rest ih =>
      obtain ⟨⟨key, hkey⟩, hrestKeys⟩ := List.forall_mem_cons.mp hkeys
      obtain ⟨hentry, hrest⟩ := List.forall_mem_cons.mp h
      obtain ⟨first, value⟩ := entry
      obtain rfl : first = .text key := hkey
      rw [writeEntries, keyText] at htexts
      obtain ⟨keyText, hkeyText, htexts⟩ := Except.exists_of_bind_eq_ok htexts
      obtain rfl := Except.ok.inj hkeyText
      obtain ⟨text, htext, htexts⟩ := Except.exists_of_bind_eq_ok htexts
      obtain ⟨more, hmore, htexts⟩ := Except.exists_of_bind_eq_ok htexts
      obtain rfl := Except.ok.inj htexts
      refine .cons ⟨key, text, ?_, rfl, hentry text htext⟩ (ih hmore hrestKeys hrest)
      rw [hlayout, List.append_assoc]

theorem eq_succ_of_room {layout : Layout} {inner : Nat} (h : layout.descent.room room = .ok inner) :
    room = inner + 1 := by
  have hcost := cost_descent layout
  rcases Nat.lt_or_ge room layout.descent.cost with hshort | henough
  · rw [Descent.room_of_lt hshort] at h
    cases h
  · rw [Descent.room_of_le henough] at h
    obtain rfl := Except.ok.inj h
    omega

theorem reads_write {layout : Layout} (hlayout : layout.asciiOnly = false) {level : Nat}
    {value : Value} (h : value.IsJson) {text : Text}
    (htext : write layout room level value = .ok text) :
    Reads room text value := by
  induction h generalizing room level text with
  | null =>
      rw [write] at htext
      obtain rfl := Except.ok.inj htext
      exact reads_null
  | bool b =>
      rw [write] at htext
      obtain rfl := Except.ok.inj htext
      exact reads_bool b
  | int digits =>
      rw [write] at htext
      exact reads_printInt htext
  | text s =>
      rw [write, hlayout] at htext
      obtain rfl := Except.ok.inj htext
      exact reads_quote s
  | list members ih =>
      rw [write] at htext
      obtain ⟨inner, hinner, hinside⟩ := Except.exists_of_bind_eq_ok htext
      obtain rfl := eq_succ_of_room hinner
      obtain ⟨texts, htexts, hbracket⟩ := Except.exists_of_bind_eq_ok hinside
      obtain rfl := Except.ok.inj hbracket
      exact reads_list layout level (forall₂_reads_of_writeItems htexts
        fun item hitem text htext => ih item hitem htext)
  | map keys distinct values ih =>
      rw [write] at htext
      obtain ⟨inner, hinner, hinside⟩ := Except.exists_of_bind_eq_ok htext
      obtain rfl := eq_succ_of_room hinner
      obtain ⟨texts, htexts, hbracket⟩ := Except.exists_of_bind_eq_ok hinside
      obtain rfl := Except.ok.inj hbracket
      exact reads_map layout level (forall₂_readsEntry_of_writeEntries hlayout htexts keys
        fun entry hentry text htext => ih entry hentry htext) keys distinct

theorem parse_print {layout : Layout} (hlayout : layout.asciiOnly = false) {value : Value}
    (h : value.IsJson) {text : Text} (htext : print layout room value = .ok text) :
    parse room text = .ok value := by
  have hreads := reads_write hlayout h htext
  have hfuel : text.length ≤ 2 * text.length + 2 := by omega
  have hend : EndsNumber [] := by simp [EndsNumber]
  have hread := hreads.read 0 hfuel hend
  rw [List.append_nil] at hread
  rw [parse, if_neg hreads.starts.head?_ne_byteOrderMark,
    skipSpace_of_head text 0 hreads.starts.not_isSpace]
  simp [hread, bind, Except.bind, Cursor.skipSpace, Cursor.skip, pure, Except.pure]

end Json

namespace Filter

theorem readJson_eq_of_parse {value parsed : Value} {text : Text}
    (htext : value.displayed runtime = .ok text)
    (hparsed : Json.parse runtime.room text = .ok parsed) :
    (parseJson runtime).run value [] = .ok parsed := by
  show readJson runtime value [] = .ok parsed
  simp only [readJson, htext, hparsed]

/-- Reading JSON undoes writing it, as far as there is room: a value is written as indented JSON
from which it is read again, and a mapping has a text in a note from which it is read again. -/
theorem parseJson_json {value : Value} (h : value.IsJson) {runtime : Runtime}
    (hroom : value.nesting ≤ runtime.room) :
    (∃ text, (json runtime).run value [] = .ok (.text text) ∧
      Json.parse runtime.room text = .ok value ∧
      (parseJson runtime).run (.text text) [] = .ok value) ∧
    ∀ entries, value = .map entries →
      ∃ text, value.displayed runtime = .ok text ∧ Json.parse runtime.room text = .ok value ∧
        (parseJson runtime).run value [] = .ok value := by
  constructor
  · obtain ⟨text, htext⟩ := (Json.takes_write h.isPageData .indented runtime.room 0).exists_ok hroom
    have hparse := Json.parse_print rfl h htext
    have hwrite : (json runtime).run value [] = .ok (.text text) := by
      show writeJson runtime value [] = .ok (.text text)
      simp only [writeJson, Json.print, htext]
    exact ⟨text, hwrite, hparse, readJson_eq_of_parse rfl hparse⟩
  · rintro entries rfl
    obtain ⟨text, htext⟩ := (Json.takes_write h.isPageData .compact runtime.room 0).exists_ok hroom
    have hparse := Json.parse_print rfl h htext
    have hdisplayed : (Value.map entries).displayed runtime = .ok text := by
      rw [Value.displayed, Value.display, Json.print, htext]
      rfl
    exact ⟨text, hdisplayed, hparse, readJson_eq_of_parse hdisplayed hparse⟩

theorem json_ne_ok {value : Value} (h : value.IsPageData) {runtime : Runtime}
    (hshort : runtime.room < value.nesting) (result : Value) :
    (json runtime).run value [] ≠ .ok result := by
  have hwalk := Json.takes_write h .indented runtime.room 0
  show writeJson runtime value [] ≠ .ok result
  rw [writeJson, Json.print]
  generalize Json.write .indented runtime.room 0 value = walk at hwalk ⊢
  cases hwalk with
  | ok enough text => exact absurd enough (Nat.not_le.mpr hshort)
  | tooDeep short descent => exact fun hresult => nomatch hresult

def nestedList : Nat → Value
  | 0 => .list []
  | n + 1 => .list [nestedList n]

theorem nesting_nestedList (n : Nat) : (nestedList n).nesting = n + 1 := by
  induction n with
  | zero => rfl
  | succ n ih => simp [nestedList, Value.nesting, Value.itemsNesting, ih]

theorem isJson_nestedList (n : Nat) : (nestedList n).IsJson := by
  induction n with
  | zero => exact .list (List.forall_mem_nil _)
  | succ n ih => exact .list (by simpa using ih)

/-- A mapping with empty and nested values, and with characters that are escaped. -/
def nestedEntries : Entries :=
  [(.text [.char '"', .char '\\', .char '\n', .char '\x01', .char 'é'],
      .list [.null, .bool true, .int (-120), .list []]),
   (.text [], .map [(.text [.char 'b'], .map []), (.text [.char 'a'], .text [.char '\t'])])]

theorem parseJson_json_nested :
    (∃ text, (json {}).run (.map nestedEntries) [] = .ok (.text text) ∧
      (parseJson {}).run (.text text) [] = .ok (.map nestedEntries)) ∧
    (parseJson {}).run (.map nestedEntries) [] = .ok (.map nestedEntries) := by
  have hinner : (Value.map [(.text [.char 'b'], .map []),
    (.text [.char 'a'], .text [.char '\t'])]).IsJson := by
    refine .map ?_ ?_ ?_
    · simp
    · simp
    · simp only [List.forall_mem_cons, List.not_mem_nil, false_imp_iff, implies_true, and_true]
      exact ⟨.map (by simp) (by simp) (by simp), .text _⟩
  have hlist : (Value.list [.null, .bool true, .int (-120), .list []]).IsJson := by
    refine .list ?_
    simp only [List.forall_mem_cons, List.not_mem_nil, false_imp_iff, implies_true, and_true]
    exact ⟨.null, .bool true, .int (by decide), .list (by simp)⟩
  have hnested : (Value.map nestedEntries).IsJson := by
    refine .map ?_ ?_ ?_
    · simp [nestedEntries]
    · simp [nestedEntries]
    · simp only [nestedEntries, List.forall_mem_cons, List.not_mem_nil, false_imp_iff,
        implies_true, and_true]
      exact ⟨hlist, hinner⟩
  have hroom : (Value.map nestedEntries).nesting ≤ ({} : Runtime).room := by decide
  obtain ⟨⟨text, hwrite, -, hread⟩, hmap⟩ := parseJson_json hnested hroom
  obtain ⟨-, -, -, hself⟩ := hmap nestedEntries rfl
  exact ⟨⟨text, hwrite, hread⟩, hself⟩

/-- Lists in one another that are nested deeper than there is room for have no JSON. -/
theorem not_parseJson_json_nestedList :
    (nestedList 2000).IsJson ∧
      ¬ ∃ text, (json {}).run (nestedList 2000) [] = .ok (.text text) ∧
        (parseJson {}).run (.text text) [] = .ok (nestedList 2000) := by
  refine ⟨isJson_nestedList 2000, ?_⟩
  rintro ⟨text, hwrite, -⟩
  have hshort : ({} : Runtime).room < (nestedList 2000).nesting := by
    rw [nesting_nestedList]
    decide
  exact json_ne_ok (isJson_nestedList 2000).isPageData hshort _ hwrite

end Filter

end Clippings
