import Clippings.Value.Basic
import Mathlib.Data.List.Nodup

namespace Clippings

theorem Value.same_text_iff {value : Value} {s : Text} :
    value.same (.text s) = true ↔ value = .text s := by
  cases value <;> simp [same, sameScalar, integer?]

theorem Value.text_same_iff {value : Value} {s : Text} :
    (Value.text s).same value = true ↔ value = .text s := by
  cases value <;> simp [same, sameScalar, integer?, eq_comm]

namespace Entries

theorem getText?_cons_self (key : Text) (value : Value) (rest : Entries) :
    getText? key ((.text key, value) :: rest) = some value := by
  rw [getText?, if_pos rfl]

theorem getText?_cons_of_ne {key : Text} {other : Value} (h : other ≠ .text key) (value : Value)
    (rest : Entries) : getText? key ((other, value) :: rest) = getText? key rest := by
  cases other with
  | text name =>
      have hname : key ≠ name := fun heq => h (congrArg Value.text heq.symm)
      rw [getText?, if_neg hname]
  | _ => rfl

theorem getText?_of_mem {entries : Entries} (hdistinct : (entries.map (·.1)).Nodup) {key : Text}
    {value : Value} (h : (.text key, value) ∈ entries) : entries.getText? key = some value := by
  induction entries with
  | nil => cases h
  | cons entry rest ih =>
      obtain ⟨other, first⟩ := entry
      rw [List.map_cons, List.nodup_cons] at hdistinct
      rcases List.mem_cons.mp h with hfirst | hrest
      · obtain ⟨rfl, rfl⟩ := Prod.mk.inj hfirst
        exact getText?_cons_self key value rest
      · have hother : other ≠ .text key := by
          rintro rfl
          exact hdistinct.1 (List.mem_map.mpr ⟨_, hrest, rfl⟩)
        rw [getText?_cons_of_ne hother, ih hdistinct.2 hrest]

theorem mem_of_getText? {entries : Entries} {key : Text} {value : Value}
    (h : entries.getText? key = some value) : (.text key, value) ∈ entries := by
  induction entries with
  | nil => cases h
  | cons entry rest ih =>
      obtain ⟨other, first⟩ := entry
      by_cases hother : other = .text key
      · subst hother
        rw [getText?_cons_self] at h
        obtain rfl := Option.some.inj h
        exact List.mem_cons_self
      · rw [getText?_cons_of_ne hother] at h
        exact List.mem_cons_of_mem _ (ih h)

theorem of_getText? {D : Value → Prop} {entries : Entries} {key : Text} {value : Value}
    (h : ∀ entry ∈ entries, D entry.2) (hvalue : entries.getText? key = some value) : D value :=
  h _ (mem_of_getText? hvalue)

theorem getText?_insert_self (key : Text) (value : Value) (entries : Entries) :
    (entries.insert (.text key) value).getText? key = some value := by
  fun_induction insert (.text key) value entries with
  | case1 => exact getText?_cons_self key value []
  | case2 other old rest hsame =>
      obtain rfl := Value.text_same_iff.mp hsame
      exact getText?_cons_self key value rest
  | case3 other old rest hsame ih =>
      rw [getText?_cons_of_ne (mt Value.text_same_iff.mpr hsame), ih]

theorem getText?_insert_of_ne {key : Value} {name : Text} (h : key ≠ .text name) (value : Value)
    (entries : Entries) : (entries.insert key value).getText? name = entries.getText? name := by
  fun_induction insert key value entries with
  | case1 => exact getText?_cons_of_ne h value []
  | case2 other old rest hsame =>
      have hother : other ≠ .text name := by
        rintro rfl
        exact h (Value.same_text_iff.mp hsame)
      rw [getText?_cons_of_ne hother, getText?_cons_of_ne hother]
  | case3 other old rest hsame ih =>
      by_cases hother : other = .text name
      · rw [hother, getText?_cons_self, getText?_cons_self]
      · rw [getText?_cons_of_ne hother, getText?_cons_of_ne hother, ih]

theorem getText?_insert_congr {first second : Entries} {name : Text}
    (h : first.getText? name = second.getText? name) (key value : Value) :
    (first.insert key value).getText? name = (second.insert key value).getText? name := by
  by_cases hkey : key = .text name
  · rw [hkey, getText?_insert_self, getText?_insert_self]
  · rw [getText?_insert_of_ne hkey, getText?_insert_of_ne hkey, h]

theorem insert_of_notMem {entries : Entries} {key : Text}
    (hnew : Value.text key ∉ entries.map (·.1)) (value : Value) :
    entries.insert (.text key) value = entries ++ [(.text key, value)] := by
  fun_induction insert (.text key) value entries with
  | case1 => rfl
  | case2 other old rest hsame =>
      obtain rfl := Value.text_same_iff.mp hsame
      simp at hnew
  | case3 other old rest hsame ih =>
      rw [List.map_cons, List.mem_cons, not_or] at hnew
      rw [ih hnew.2, List.cons_append]

theorem insert_of_nodup {entries rest : Entries} {entry : Value × Value}
    (hkey : ∃ key, entry.1 = .text key) (hdistinct : ((entries ++ entry :: rest).map (·.1)).Nodup) :
    entries.insert entry.1 entry.2 = entries ++ [entry] := by
  obtain ⟨key, hkey⟩ := hkey
  rw [List.map_append, List.map_cons] at hdistinct
  have hnew : Value.text key ∉ entries.map (·.1) := by
    rw [← hkey]
    exact fun hmem => List.disjoint_of_nodup_append hdistinct hmem (by simp)
  rw [hkey, insert_of_notMem hnew, ← hkey]

/-- Entries with keys that are all new and differ from one another are put behind the others: none
of them takes the place of another one. -/
theorem insertAll_of_nodup {entries new : Entries}
    (hkeys : ∀ entry ∈ new, ∃ key, entry.1 = .text key)
    (hdistinct : ((entries ++ new).map (·.1)).Nodup) : entries.insertAll new = entries ++ new := by
  induction new generalizing entries with
  | nil => simp [insertAll]
  | cons entry rest ih =>
      obtain ⟨hkey, hrest⟩ := List.forall_mem_cons.mp hkeys
      show (entries.insert entry.1 entry.2).insertAll rest = _
      rw [insert_of_nodup hkey hdistinct, ih hrest (by simpa using hdistinct), List.append_assoc,
        List.singleton_append]

theorem ofList_of_nodup {entries : Entries} (hkeys : ∀ entry ∈ entries, ∃ key, entry.1 = .text key)
    (hdistinct : (entries.map (·.1)).Nodup) : ofList entries = entries :=
  insertAll_of_nodup hkeys hdistinct

theorem mem_insert {key value : Value} {entries : Entries} {entry : Value × Value}
    (h : entry ∈ insert key value entries) :
    (∃ old ∈ entries, entry.1 = old.1 ∧ (entry.2 = value ∨ entry = old)) ∨
      entry = (key, value) := by
  fun_induction insert key value entries with
  | case1 => exact .inr (by simpa using h)
  | case2 other old rest hsame =>
      rcases List.mem_cons.mp h with rfl | hrest
      · exact .inl ⟨(other, old), by simp, rfl, .inl rfl⟩
      · exact .inl ⟨entry, by simp [hrest], rfl, .inr rfl⟩
  | case3 other old rest hsame ih =>
      rcases List.mem_cons.mp h with rfl | hrest
      · exact .inl ⟨(other, old), by simp, rfl, .inr rfl⟩
      · rcases ih hrest with ⟨old, hold, hentry⟩ | hentry
        · exact .inl ⟨old, by simp [hold], hentry⟩
        · exact .inr hentry

theorem forall_mem_ofList {p q : Value → Prop} {new : Entries}
    (h : ∀ entry ∈ new, p entry.1 ∧ q entry.2) : ∀ entry ∈ ofList new, p entry.1 ∧ q entry.2 := by
  suffices ∀ entries : Entries, (∀ entry ∈ entries, p entry.1 ∧ q entry.2) →
      ∀ entry ∈ entries.insertAll new, p entry.1 ∧ q entry.2 from this [] (by simp)
  induction new with
  | nil => exact fun entries hentries => hentries
  | cons first rest ih =>
      obtain ⟨hfirst, hrest⟩ := List.forall_mem_cons.mp h
      intro entries hentries
      refine ih hrest (entries.insert first.1 first.2) fun entry hentry => ?_
      rcases mem_insert hentry with ⟨old, hold, hkey, hvalue | rfl⟩ | rfl
      · rw [hkey, hvalue]
        exact ⟨(hentries old hold).1, hfirst.2⟩
      · exact hentries entry hold
      · exact hfirst

theorem getText?_insertAll_congr {first second : Entries} {name : Text}
    (h : first.getText? name = second.getText? name) (new : Entries) :
    (first.insertAll new).getText? name = (second.insertAll new).getText? name := by
  induction new generalizing first second with
  | nil => exact h
  | cons entry rest ih => exact ih (getText?_insert_congr h entry.1 entry.2)

end Entries

end Clippings
