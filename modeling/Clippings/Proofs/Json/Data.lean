import Clippings.Json.Reader
import Clippings.Proofs.Outcome
import Clippings.Proofs.Value.PageData
import Mathlib.Data.List.TakeWhile

namespace Clippings.Json

theorem isPageData_of_word? {text : Text} {size : Nat} {value : Value}
    (h : word? text = some (size, value)) : value.IsPageData := by
  obtain ⟨word, hword, hvalue⟩ := Option.map_eq_some_iff.mp h
  have hmem := List.mem_of_find?_eq_some hword
  obtain rfl := (Prod.mk.inj hvalue).2
  simp only [words, List.mem_cons, List.not_mem_nil, or_false] at hmem
  rcases hmem with rfl | rfl | rfl | rfl | rfl | rfl
  · exact .null
  · exact .bool true
  · exact .bool false
  · exact .float trivial
  · exact .float trivial
  · exact .float trivial

theorem isDigit_of_integerLength? {text : Text} {count : Nat}
    (h : integerLength? text = some count) : ∀ c ∈ text.take count, c.isDigit = true := by
  fun_cases integerLength? text with
  | case1 rest =>
      simp only [integerLength?, Option.some.injEq] at h
      subst h
      simp
  | case2 c rest hzero hdigit =>
      simp only [integerLength?, hdigit, ↓reduceIte, Option.some.injEq] at h
      subst h
      intro d hd
      rw [Nat.add_comm, List.take_succ_cons] at hd
      rcases List.mem_cons.mp hd with rfl | hrest
      · exact hdigit
      · rw [← List.prefix_iff_eq_take.mp (List.takeWhile_prefix _)] at hrest
        exact List.mem_takeWhile_imp hrest
  | case3 c rest hzero hdigit => simp [integerLength?, hdigit] at h
  | case4 => simp [integerLength?] at h

theorem natAbs_signed (negative : Prop) [Decidable negative] (n : Nat) :
    (if negative then -(n : Int) else n).natAbs = n := by
  split
  · exact Int.natAbs_neg _
  · rfl

theorem isPageData_of_readNumber {cursor after : Cursor} {value : Value}
    (h : readNumber cursor = .ok (value, after)) : value.IsPageData := by
  simp only [readNumber] at h
  generalize (if cursor.head? = some (.char '-') then 1 else 0) = start at h
  cases hcount : integerLength? (cursor.rest.drop start) with
  | none => simp [hcount] at h
  | some count =>
      simp only [hcount] at h
      split at h
      · split at h
        · cases h
        · next hlimit =>
          obtain rfl := (Prod.mk.inj (Except.ok.inj h)).1
          apply Value.IsPageData.int
          rw [natAbs_signed]
          apply Text.length_ofNat_le (by decide)
          calc
            Text.natOfText ((cursor.rest.drop start).take count)
                < 10 ^ ((cursor.rest.drop start).take count).length :=
              Text.natOfText_lt (isDigit_of_integerLength? hcount)
            _ ≤ 10 ^ integerDigitLimit :=
              Nat.pow_le_pow_right (by decide)
                ((List.length_take_le _ _).trans (Nat.not_lt.mp hlimit))
      · split at h
        · next x hx =>
          obtain rfl := (Prod.mk.inj (Except.ok.inj h)).1
          exact .float (Binary64.isRepresentable_of_read? hx)
        · cases h

/-- What is read within some steps is page data, if the entries and the items that were read before
are. -/
structure ReadsData (fuel : Nat) : Prop where
  value {room : Nat} {cursor after : Cursor} {value : Value} :
    readValue room fuel cursor = .ok (value, after) → value.IsPageData
  entries {room : Nat} {cursor after : Cursor} {done : Entries} {value : Value} :
    (Value.map done).IsPageData → readEntries room fuel cursor done = .ok (value, after) →
      value.IsPageData
  items {room : Nat} {cursor after : Cursor} {done : List Value} {value : Value} :
    (∀ item ∈ done, item.IsPageData) → readItems room fuel cursor done = .ok (value, after) →
      value.IsPageData

theorem readsData_zero : ReadsData 0 where
  value := by
    intro room cursor after value h
    rw [readValue] at h
    cases h
  entries := by
    intro room cursor after done value _ h
    rw [readEntries] at h
    cases h
  items := by
    intro room cursor after done value _ h
    rw [readItems] at h
    cases h

theorem isPageData_of_readValue_succ {room fuel : Nat} (ih : ReadsData fuel) {cursor after : Cursor}
    {value : Value} (h : readValue room (fuel + 1) cursor = .ok (value, after)) :
      value.IsPageData := by
  rw [readValue] at h
  split at h
  · obtain ⟨⟨s, rest⟩, -, h⟩ := Except.exists_of_bind_eq_ok h
    obtain rfl := (Prod.mk.inj (Except.ok.inj h)).1
    exact .text s
  · obtain ⟨inner, -, h⟩ := Except.exists_of_bind_eq_ok h
    simp only at h
    split at h
    · obtain rfl := (Prod.mk.inj (Except.ok.inj h)).1
      exact .map (by simp) (by simp)
    · exact ih.entries (.map (by simp) (by simp)) h
  · obtain ⟨inner, -, h⟩ := Except.exists_of_bind_eq_ok h
    simp only at h
    split at h
    · obtain rfl := (Prod.mk.inj (Except.ok.inj h)).1
      exact .list (by simp)
    · exact ih.items (by simp) h
  · split at h
    · next size word hword =>
      obtain rfl := (Prod.mk.inj (Except.ok.inj h)).1
      exact isPageData_of_word? hword
    · exact isPageData_of_readNumber h

theorem isPageData_of_readEntries_succ {room fuel : Nat} (ih : ReadsData fuel)
    {cursor after : Cursor} {done : Entries} {value : Value} (hdone : (Value.map done).IsPageData)
    (h : readEntries room (fuel + 1) cursor done = .ok (value, after)) : value.IsPageData := by
  rw [readEntries] at h
  split at h
  · obtain ⟨⟨key, behindKey⟩, -, h⟩ := Except.exists_of_bind_eq_ok h
    have h := Except.of_refused_eq_ok h
    obtain ⟨⟨item, behindItem⟩, hitem, h⟩ := Except.exists_of_bind_eq_ok h
    have hinserted := Entries.isPageData_insert key hdone (ih.value hitem)
    simp only at h
    split at h
    · obtain rfl := (Prod.mk.inj (Except.ok.inj h)).1
      exact hinserted
    · exact ih.entries hinserted (Except.of_refused_eq_ok h)
  · cases h

theorem isPageData_of_readItems_succ {room fuel : Nat} (ih : ReadsData fuel) {cursor after : Cursor}
    {done : List Value} {value : Value} (hdone : ∀ item ∈ done, item.IsPageData)
    (h : readItems room (fuel + 1) cursor done = .ok (value, after)) : value.IsPageData := by
  rw [readItems] at h
  obtain ⟨⟨item, behindItem⟩, hitem, h⟩ := Except.exists_of_bind_eq_ok h
  have hmore : ∀ other ∈ item :: done, other.IsPageData := by
    intro other hother
    rcases List.mem_cons.mp hother with rfl | hold
    · exact ih.value hitem
    · exact hdone other hold
  simp only at h
  split at h
  · obtain rfl := (Prod.mk.inj (Except.ok.inj h)).1
    exact .list (fun other hother => hmore other (List.mem_reverse.mp hother))
  · exact ih.items hmore (Except.of_refused_eq_ok h)

theorem readsData (fuel : Nat) : ReadsData fuel := by
  induction fuel with
  | zero => exact readsData_zero
  | succ fuel ih =>
      exact
        { value := isPageData_of_readValue_succ ih
          entries := isPageData_of_readEntries_succ ih
          items := isPageData_of_readItems_succ ih }

theorem isPageData_of_parse {room : Nat} {text : Text} {value : Value}
    (h : parse room text = .ok value) :
    value.IsPageData := by
  rw [parse] at h
  have h := Except.of_refused_eq_ok h
  obtain ⟨⟨read, cursor⟩, hread, h⟩ := Except.exists_of_bind_eq_ok h
  simp only at h
  split at h
  · obtain rfl := Except.ok.inj h
    exact (readsData _).value hread
  · cases h

end Clippings.Json
