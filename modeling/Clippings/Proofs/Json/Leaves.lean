import Clippings.Json.Writer
import Clippings.Json.Reader
import Clippings.Proofs.Number.Digits
import Clippings.Proofs.Outcome
import Clippings.Proofs.Text.Cutting

namespace Clippings

namespace Json

theorem skipSpace_append (blank : Text) {text : Text} (position : Nat)
    (hblank : ∀ c ∈ blank, isSpace c) (htext : ∀ c ∈ text.head?, isSpace c = false) :
    Cursor.skipSpace ⟨blank ++ text, position⟩ = ⟨text, position + blank.length⟩ := by
  have hstop : text.takeWhile isSpace = [] := by
    cases text with
    | nil => rfl
    | cons c rest => simp [htext c rfl]
  rw [Cursor.skipSpace, Cursor.skip]
  simp [List.takeWhile_append_of_pos hblank, hstop]

theorem skipSpace_of_head (text : Text) (position : Nat)
    (htext : ∀ c ∈ text.head?, isSpace c = false) :
    Cursor.skipSpace ⟨text, position⟩ = ⟨text, position⟩ :=
  skipSpace_append [] position (by simp) htext

theorem isSpace_of_mem_lineBreak {layout : Layout} {level : Nat} {c : CodePoint}
    (h : c ∈ lineBreak layout level) : isSpace c = true := by
  rw [lineBreak] at h
  split at h
  · simp at h
  · rcases List.mem_cons.mp h with rfl | hblank
    · rfl
    · rw [List.eq_of_mem_replicate hblank]
      rfl

theorem unit?_hexDigits : ∀ n < 32, unit? (Text.hexDigits 4 n) = some n := by decide

theorem length_hexDigits : ∀ n < 32, (Text.hexDigits 4 n).length = 4 := by decide

theorem unitChar_hexDigits {n : Nat} (position : Nat) {text : Text} (hn : n < 32)
    (htext : text ≠ []) :
    unitChar ⟨Text.hexDigits 4 n ++ text, position⟩ = .ok (CodePoint.ofNat n, 4) := by
  have hlength := length_hexDigits n hn
  have hunit : unit? ((Text.hexDigits 4 n ++ text).take 4) = some n := by
    rw [List.take_left' hlength]
    exact unit?_hexDigits n hn
  have hmore : 0 < text.length := List.length_pos_iff.mpr htext
  have hlow : ¬0xD800 ≤ n := by omega
  rw [unitChar, if_neg (by rw [List.length_append]; omega)]
  simp only [hunit, hlow, decide_false, Bool.false_and, Bool.false_eq_true, ↓reduceIte]

theorem readText_escapeChar (opening fuel position : Nat) (c : CodePoint) {text : Text}
    (done : Text) (htext : text ≠ []) :
    readText opening (fuel + 1) ⟨escapeChar false c ++ text, position⟩ done =
      readText opening fuel ⟨text, position + (escapeChar false c).length⟩ (c :: done) := by
  fun_cases escapeChar false c with
  | case8 _ _ _ _ _ _ _ hcontrol =>
      have hunit := unitChar_hexDigits (position + 2) hcontrol htext
      have hlength := length_hexDigits c.toNat hcontrol
      rw [unitEscape, List.cons_append, List.cons_append, readText]
      simp only [hunit, CodePoint.ofNat_toNat, List.length_cons, hlength]
      rw [List.drop_left' hlength]
  | case9 _ _ _ _ _ _ _ _ hascii => simp at hascii
  | case10 hquote hslash _ _ _ _ _ hcontrol _ =>
      simp [readText, hcontrol]
  | _ =>
      subst_vars
      simp [readText, letterEscape?]

theorem readText_escaped (opening : Nat) {fuel : Nat} (position : Nat) (s rest done : Text)
    (hfuel : s.length < fuel) :
    readText opening fuel ⟨s.flatMap (escapeChar false) ++ .char '"' :: rest, position⟩ done =
      .ok (done.reverse ++ s,
        ⟨rest, position + (s.flatMap (escapeChar false)).length + 1⟩) := by
  induction s generalizing fuel position done with
  | nil =>
      obtain ⟨fuel, rfl⟩ := Nat.exists_eq_succ_of_ne_zero (Nat.ne_zero_of_lt hfuel)
      simp [readText]
  | cons c s ih =>
      obtain ⟨fuel, rfl⟩ := Nat.exists_eq_succ_of_ne_zero (Nat.ne_zero_of_lt hfuel)
      rw [List.flatMap_cons, List.append_assoc, readText_escapeChar _ _ _ _ _ (by simp),
        ih _ _ (Nat.lt_of_succ_lt_succ hfuel)]
      simp [Nat.add_assoc]

theorem length_le_escaped (s : Text) : s.length ≤ (s.flatMap (escapeChar false)).length := by
  induction s with
  | nil => simp
  | cons c s ih =>
      have hone : 1 ≤ (escapeChar false c).length := by
        rw [escapeChar]
        grind [unitEscape, unitEscapes]
      rw [List.flatMap_cons, List.length_append, List.length_cons]
      omega

def EndsNumber (rest : Text) : Prop :=
  ∀ c ∈ rest.head?, c.isDigit = false ∧ c ≠ '.' ∧ c ≠ 'e' ∧ c ≠ 'E'

theorem endsNumber_cons {c : CodePoint} (rest : Text)
    (h : c.isDigit = false ∧ c ≠ '.' ∧ c ≠ 'e' ∧ c ≠ 'E') : EndsNumber (c :: rest) := by
  intro d hd
  obtain rfl : c = d := Option.some.inj hd
  exact h

theorem EndsNumber.fractionLength {rest : Text} (h : EndsNumber rest) :
    fractionLength rest = 0 := by
  cases rest with
  | nil => rfl
  | cons c tail => simp [Json.fractionLength, (h c rfl).2.1]

theorem EndsNumber.powerLength {rest : Text} (h : EndsNumber rest) : powerLength rest = 0 := by
  cases rest with
  | nil => rfl
  | cons c tail =>
      obtain ⟨-, -, hsmall, hcapital⟩ := h c rfl
      simp [Json.powerLength, hsmall, hcapital]

theorem EndsNumber.takeWhile_isDigit {rest : Text} (h : EndsNumber rest) :
    rest.takeWhile CodePoint.isDigit = [] := by
  cases rest with
  | nil => rfl
  | cons c tail => simp [(h c rfl).1]

theorem integerLength?_ofNat (n : Nat) {rest : Text} (hrest : EndsNumber rest) :
    integerLength? (Text.ofNat n ++ rest) = some (Text.ofNat n).length := by
  rcases Nat.eq_zero_or_pos n with rfl | hpos
  · rfl
  · obtain ⟨c, tail, hdigits, hzero⟩ := Text.exists_ofNat_eq_cons hpos
    have hall : ∀ d ∈ c :: tail, d.isDigit = true := fun d hd =>
      Text.isDigit_of_mem_ofNat (hdigits ▸ hd)
    obtain ⟨hc, htail⟩ := List.forall_mem_cons.mp hall
    rw [hdigits, List.cons_append, integerLength?]
    · rw [if_pos hc, List.takeWhile_append_of_pos htail, hrest.takeWhile_isDigit, List.append_nil,
        Nat.add_comm, List.length_cons]
    · exact fun h => hzero h

def sign (negative : Bool) : Text := if negative then [.char '-'] else []

theorem head?_sign_append (negative : Bool) (n : Nat) (rest : Text) :
    (sign negative ++ (Text.ofNat n ++ rest)).head? = some (.char '-') ↔ negative = true := by
  cases negative with
  | true => exact iff_of_true rfl rfl
  | false =>
      cases hdigits : Text.ofNat n with
      | nil => exact absurd hdigits (Text.ofNat_ne_nil n)
      | cons c tail =>
          have hdigit : c.isDigit = true := Text.isDigit_of_mem_ofNat (by rw [hdigits]; simp)
          have hminus : c ≠ '-' := by
            rintro rfl
            exact absurd hdigit (by decide)
          simpa [sign] using hminus

theorem readNumber_digits (negative : Bool) {n : Nat} (position : Nat) {rest : Text}
    (hlimit : (Text.ofNat n).length ≤ integerDigitLimit) (hrest : EndsNumber rest) :
    readNumber ⟨sign negative ++ (Text.ofNat n ++ rest), position⟩ =
      .ok (.int (if negative then -n else n),
        ⟨rest, position + (sign negative ++ Text.ofNat n).length⟩) := by
  have hstart : (if negative then 1 else 0) = (sign negative).length := by
    cases negative <;> rfl
  have hwhole : (sign negative ++ (Text.ofNat n ++ rest)).drop
      ((sign negative).length + (Text.ofNat n).length) = rest := by
    rw [← List.append_assoc, ← List.length_append, List.drop_left]
  simp only [readNumber, Cursor.head?, head?_sign_append, hstart, List.drop_left,
    integerLength?_ofNat n hrest, hwhole, hrest.fractionLength, Nat.add_zero, hrest.powerLength,
    if_neg (Nat.not_lt.mpr hlimit), Cursor.skip, List.take_left, Text.natOfText_ofNat,
    List.length_append, ↓reduceIte]

theorem readNumber_printInt {n : Int} {text rest : Text} (position : Nat)
    (htext : printInt n = .ok text) (hrest : EndsNumber rest) :
    readNumber ⟨text ++ rest, position⟩ = .ok (.int n, ⟨rest, position + text.length⟩) := by
  simp only [printInt] at htext
  split at htext
  · cases htext
  · rename_i hlimit
    have hlimit := Nat.not_lt.mp hlimit
    obtain rfl := Except.ok.inj htext
    split
    · rename_i hnegative
      have hvalue : -(n.natAbs : Int) = n := by omega
      have hread := readNumber_digits true position hlimit hrest
      rw [if_pos rfl, hvalue] at hread
      exact hread
    · rename_i hpositive
      have hvalue : (n.natAbs : Int) = n := by omega
      have hread := readNumber_digits false position hlimit hrest
      rw [if_neg Bool.false_ne_true, hvalue] at hread
      exact hread

theorem word?_digits (negative : Bool) (n : Nat) (rest : Text) :
    word? (sign negative ++ (Text.ofNat n ++ rest)) = none := by
  cases hdigits : Text.ofNat n with
  | nil => exact absurd hdigits (Text.ofNat_ne_nil n)
  | cons c tail =>
      have hdigit : c.isDigit = true := Text.isDigit_of_mem_ofNat (by rw [hdigits]; simp)
      have hletter : ∀ d, d.isDigit = false → d ≠ c := by
        rintro d hd rfl
        simp [hd] at hdigit
      cases negative with
      | true => simp [sign, word?, words, Text.startsWith, hletter 'I' rfl]
      | false =>
          simp [sign, word?, words, Text.startsWith, hletter 'n' rfl, hletter 't' rfl,
            hletter 'f' rfl, hletter 'N' rfl, hletter 'I' rfl, hletter '-' rfl]

theorem exists_printInt_eq_cons {n : Int} {text : Text} (htext : printInt n = .ok text) :
    ∃ negative c tail, text = sign negative ++ Text.ofNat n.natAbs ∧ text = c :: tail ∧
      ∀ d : CodePoint, d ≠ '-' ∧ d.isDigit = false → c ≠ d := by
  simp only [printInt] at htext
  split at htext
  · cases htext
  · obtain rfl := Except.ok.inj htext
    cases hdigits : Text.ofNat n.natAbs with
    | nil => exact absurd hdigits (Text.ofNat_ne_nil _)
    | cons c tail =>
        have hdigit : c.isDigit = true := Text.isDigit_of_mem_ofNat (by rw [hdigits]; simp)
        split
        · exact ⟨true, .char '-', c :: tail, rfl, rfl, fun d hd h => hd.1 h.symm⟩
        · refine ⟨false, c, tail, rfl, rfl, ?_⟩
          rintro d hd rfl
          exact Bool.noConfusion (hdigit.symm.trans hd.2)

theorem readValue_plain (room fuel position : Nat) {c : CodePoint} (rest : Text)
    (hc : c ≠ '"' ∧ c ≠ '\x7b' ∧ c ≠ '[') :
    readValue room (fuel + 1) ⟨c :: rest, position⟩ =
      match word? (c :: rest) with
      | some (size, value) => .ok (value, ⟨(c :: rest).drop size, position + size⟩)
      | none => readNumber ⟨c :: rest, position⟩ := by
  obtain ⟨hquote, hbrace, hbracket⟩ := hc
  rw [readValue]
  split
  · rename_i h
    exact absurd (List.cons.inj h).1 hquote
  · rename_i h
    exact absurd (List.cons.inj h).1 hbrace
  · rename_i h
    exact absurd (List.cons.inj h).1 hbracket
  · rfl

theorem readValue_printInt {n : Int} {text rest : Text} (room fuel position : Nat)
    (htext : printInt n = .ok text) (hrest : EndsNumber rest) :
    readValue room (fuel + 1) ⟨text ++ rest, position⟩ =
      .ok (.int n, ⟨rest, position + text.length⟩) := by
  have hnumber := readNumber_printInt position htext hrest
  obtain ⟨negative, c, tail, hsign, hcons, hc⟩ := exists_printInt_eq_cons htext
  have hword : word? (text ++ rest) = none := by
    rw [hsign, List.append_assoc]
    exact word?_digits negative n.natAbs rest
  have hplain : c ≠ '"' ∧ c ≠ '\x7b' ∧ c ≠ '[' :=
    ⟨hc '"' (by decide), hc '\x7b' (by decide), hc '[' (by decide)⟩
  rw [hcons, List.cons_append] at hword hnumber ⊢
  rw [readValue_plain room fuel position _ hplain, hword]
  exact hnumber

theorem readValue_quote (room fuel position : Nat) (s rest : Text) :
    readValue room (fuel + 1) ⟨quote false s ++ rest, position⟩ =
      .ok (.text s, ⟨rest, position + (quote false s).length⟩) := by
  have hread (opening : Nat) := readText_escaped opening (position + 1) s rest [] (by
    show s.length < (s.flatMap (escapeChar false) ++ .char '"' :: rest).length + 1
    have hlength := length_le_escaped s
    rw [List.length_append]
    omega)
  rw [quote, List.cons_append, List.cons_append, List.append_assoc, List.singleton_append,
    readValue]
  simp only [hread, List.reverse_nil, List.nil_append]
  simp [bind, Except.bind, pure, Except.pure, Nat.add_assoc, Nat.add_comm, Nat.add_left_comm]

section Ascii

variable {layout : Layout}

theorem isWhole_unitEscape (unit : Nat) : (unitEscape unit).IsWhole := by
  exact Text.isWhole_cons.mpr ⟨rfl, Text.isWhole_cons.mpr ⟨rfl, Text.isWhole_hexDigits 4 unit⟩⟩

theorem isWhole_quote (s : Text) : (quote true s).IsWhole := by
  have hchar (c : CodePoint) : (escapeChar true c).IsWhole := by
    fun_cases escapeChar true c with
    | case8 => exact isWhole_unitEscape _
    | case9 =>
        rw [unitEscapes]
        split
        · exact isWhole_unitEscape _
        · exact Text.isWhole_append.mpr ⟨isWhole_unitEscape _, isWhole_unitEscape _⟩
    | case10 hquote hslash _ _ _ _ _ hcontrol hascii =>
        cases c with
        | char c => exact Text.isWhole_cons.mpr ⟨rfl, Text.isWhole_nil⟩
        | half unit =>
            refine absurd ?_ hascii
            have hlow : 0x7F ≤ 0xD800 + unit.val := by omega
            rw [Bool.true_and]
            exact decide_eq_true hlow
    | _ => decide
  refine Text.isWhole_cons.mpr ⟨rfl, Text.isWhole_append.mpr ⟨fun c hc => ?_, by decide⟩⟩
  obtain ⟨d, -, hd⟩ := List.mem_flatMap.mp hc
  exact hchar d c hd

theorem isWhole_lineBreak (level : Nat) : (lineBreak layout level).IsWhole := by
  rw [lineBreak]
  split
  · exact Text.isWhole_nil
  · exact Text.isWhole_cons.mpr ⟨rfl, Text.isWhole_replicate _ rfl⟩

theorem isWhole_bracket {level : Nat} {opening closing : CodePoint} {items : List Text}
    (hopening : opening.isHalf = false) (hclosing : closing.isHalf = false)
    (h : ∀ item ∈ items, item.IsWhole) : (bracket layout level opening closing items).IsWhole := by
  have hclose : Text.IsWhole [closing] := Text.isWhole_cons.mpr ⟨hclosing, Text.isWhole_nil⟩
  rw [bracket]
  split
  · exact Text.isWhole_cons.mpr ⟨hopening, hclose⟩
  · have hcomma : Text.IsWhole (',' :: lineBreak layout (level + 1)) :=
      Text.isWhole_cons.mpr ⟨rfl, isWhole_lineBreak _⟩
    have hitems := Text.isWhole_join hcomma h
    simp only [Text.isWhole_append, Text.isWhole_cons]
    exact ⟨⟨⟨⟨hopening, isWhole_lineBreak _⟩, hitems⟩, isWhole_lineBreak _⟩, hclosing,
      Text.isWhole_nil⟩

theorem isWhole_of_printInt {n : Int} {text : Text} (h : printInt n = .ok text) :
    text.IsWhole := by
  rw [printInt] at h
  split at h
  · cases h
  · obtain rfl := Except.ok.inj h
    split
    · exact Text.isWhole_cons.mpr ⟨rfl, Text.isWhole_ofNat _⟩
    · exact Text.isWhole_ofNat _

theorem isWhole_floatText (x : Binary64) : (floatText x).IsWhole := by
  rw [floatText.eq_def]
  split
  · decide
  · split <;> decide
  · exact Binary64.isWhole_text _

mutual

theorem isWhole_write (hascii : layout.asciiOnly = true) {room level : Nat} :
    ∀ {value : Value} {text : Text}, write layout room level value = .ok text → text.IsWhole
  | .null, _, h => by
      obtain rfl := Except.ok.inj h
      decide
  | .bool b, _, h => by
      obtain rfl := Except.ok.inj h
      cases b <;> decide
  | .int n, _, h => isWhole_of_printInt (n := n) (by rwa [write] at h)
  | .float x, _, h => by
      obtain rfl := Except.ok.inj h
      exact isWhole_floatText x
  | .text s, _, h => by
      obtain rfl := Except.ok.inj h
      rw [hascii]
      exact isWhole_quote s
  | .date d, _, h => by
      obtain rfl := Except.ok.inj h
      rw [hascii]
      exact isWhole_quote _
  | .moment m, _, h => by
      obtain rfl := Except.ok.inj h
      rw [hascii]
      exact isWhole_quote _
  | .list items, _, h => by
      rw [write] at h
      obtain ⟨room, -, h⟩ := Except.exists_of_bind_eq_ok h
      obtain ⟨texts, htexts, h⟩ := Except.exists_of_bind_eq_ok h
      obtain rfl := Except.ok.inj h
      exact isWhole_bracket rfl rfl (isWhole_writeItems hascii htexts)
  | .tuple items, _, h => by
      rw [write] at h
      obtain ⟨room, -, h⟩ := Except.exists_of_bind_eq_ok h
      obtain ⟨texts, htexts, h⟩ := Except.exists_of_bind_eq_ok h
      obtain rfl := Except.ok.inj h
      exact isWhole_bracket rfl rfl (isWhole_writeItems hascii htexts)
  | .map entries, _, h => by
      rw [write] at h
      obtain ⟨room, -, h⟩ := Except.exists_of_bind_eq_ok h
      obtain ⟨texts, htexts, h⟩ := Except.exists_of_bind_eq_ok h
      obtain rfl := Except.ok.inj h
      exact isWhole_bracket rfl rfl (isWhole_writeEntries hascii htexts)

theorem isWhole_writeItems (hascii : layout.asciiOnly = true) {room level : Nat} :
    ∀ {items : List Value} {texts : List Text}, writeItems layout room level items = .ok texts →
      ∀ text ∈ texts, text.IsWhole
  | [], _, h => by
      obtain rfl := Except.ok.inj h
      simp
  | item :: rest, _, h => by
      rw [writeItems] at h
      obtain ⟨first, hfirst, h⟩ := Except.exists_of_bind_eq_ok h
      obtain ⟨others, hothers, h⟩ := Except.exists_of_bind_eq_ok h
      obtain rfl := Except.ok.inj h
      exact List.forall_mem_cons.mpr ⟨isWhole_write hascii hfirst,
        isWhole_writeItems hascii hothers⟩

theorem isWhole_writeEntries (hascii : layout.asciiOnly = true) {room level : Nat} :
    ∀ {entries : List (Value × Value)} {texts : List Text},
      writeEntries layout room level entries = .ok texts → ∀ text ∈ texts, text.IsWhole
  | [], _, h => by
      obtain rfl := Except.ok.inj h
      simp
  | (key, value) :: rest, _, h => by
      rw [writeEntries] at h
      obtain ⟨name, -, h⟩ := Except.exists_of_bind_eq_ok h
      obtain ⟨first, hfirst, h⟩ := Except.exists_of_bind_eq_ok h
      obtain ⟨others, hothers, h⟩ := Except.exists_of_bind_eq_ok h
      obtain rfl := Except.ok.inj h
      have hcolon : (colon layout).IsWhole := by
        rw [colon]
        split <;> decide
      refine List.forall_mem_cons.mpr ⟨?_, isWhole_writeEntries hascii hothers⟩
      rw [hascii]
      rw [Text.isWhole_append, Text.isWhole_append]
      exact ⟨⟨isWhole_quote name, hcolon⟩, isWhole_write hascii hfirst⟩

end

end Ascii

end Json

end Clippings
