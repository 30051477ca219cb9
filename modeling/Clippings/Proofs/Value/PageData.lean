import Clippings.Proofs.Number.Limits
import Clippings.Proofs.Value.Entries
import Clippings.Proofs.Value.Nesting

namespace Clippings

namespace Value

/-- JSON values: mappings have texts as keys, integers have at most as many digits as may be
written, and floating-point numbers are numbers of the format. -/
inductive IsPageData : Value → Prop
  | null : IsPageData .null
  | bool (b : Bool) : IsPageData (.bool b)
  | int {n : Int} (digits : (Text.ofNat n.natAbs).length ≤ integerDigitLimit) : IsPageData (.int n)
  | float {x : Binary64} (representable : x.IsRepresentable) : IsPageData (.float x)
  | text (s : Text) : IsPageData (.text s)
  | list {items : List Value} (members : ∀ item ∈ items, IsPageData item) : IsPageData (.list items)
  | map {entries : Entries} (keys : ∀ entry ∈ entries, ∃ key, entry.1 = .text key)
      (values : ∀ entry ∈ entries, IsPageData entry.2) : IsPageData (.map entries)

theorem isPageData_of_mem_items? {value : Value} (h : value.IsPageData) {items : List Value}
    (hitems : value.items? = some items) : ∀ item ∈ items, item.IsPageData := by
  cases h with
  | list members =>
      obtain rfl := Option.some.inj hitems
      exact members
  | _ => simp [items?] at hitems

theorem isPageData_map_values {entries : Entries} (h : (map entries).IsPageData) :
    ∀ entry ∈ entries, entry.2.IsPageData := by
  cases h with
  | map keys values => exact values

/-- A property of values that texts have, and that what lists and mappings hold has with them. -/
structure ClosedUnderParts (D : Value → Prop) : Prop where
  text : ∀ s, D (.text s)
  item : ∀ {value items}, D value → value.items? = some items → ∀ item ∈ items, D item
  entry : ∀ {entries : Entries}, D (.map entries) → ∀ entry ∈ entries, D entry.2

theorem closedUnderParts_true : ClosedUnderParts fun _ => True where
  text := fun _ => trivial
  item := fun _ _ _ _ => trivial
  entry := fun _ _ _ => trivial

theorem closedUnderParts_isPageData : ClosedUnderParts IsPageData where
  text := .text
  item := fun h hitems => isPageData_of_mem_items? h hitems
  entry := isPageData_map_values

end Value

namespace Entries

theorem isPageData_insert {entries : Entries} {value : Value} (key : Text)
    (h : (Value.map entries).IsPageData) (hvalue : value.IsPageData) :
    (Value.map (insert (.text key) value entries)).IsPageData := by
  cases h with
  | map keys values =>
      apply Value.IsPageData.map
      · intro entry hentry
        rcases mem_insert hentry with ⟨old, hold, hkey, -⟩ | rfl
        · rw [hkey]
          exact keys old hold
        · exact ⟨key, rfl⟩
      · intro entry hentry
        rcases mem_insert hentry with ⟨old, hold, -, hnew | rfl⟩ | rfl
        · rw [hnew]
          exact hvalue
        · exact values entry hold
        · exact hvalue

end Entries

theorem exists_printInt {n : Int} (h : (Text.ofNat n.natAbs).length ≤ integerDigitLimit) :
    ∃ text, printInt n = .ok text := by
  simp only [printInt, if_neg (Nat.not_lt.mpr h)]
  exact ⟨_, rfl⟩

theorem takes_printInt {n : Int} (h : (Text.ofNat n.natAbs).length ≤ integerDigitLimit)
    (room : Nat) : Takes 0 room (printInt n) := by
  obtain ⟨text, htext⟩ := exists_printInt h
  exact .of_eq_ok htext

namespace Json

theorem cost_descent (layout : Layout) : layout.descent.cost = 1 := by
  rw [Layout.descent]
  split <;> rfl

theorem takes_writeItems {layout : Layout} {room level : Nat} {items : List Value}
    (h : ∀ item ∈ items, Takes item.nesting room (write layout room level item)) :
    Takes (Value.itemsNesting items) room (writeItems layout room level items) := by
  induction items with
  | nil =>
      rw [Value.itemsNesting, writeItems]
      exact .of_eq_ok rfl
  | cons item rest ih =>
      obtain ⟨hitem, hrest⟩ := List.forall_mem_cons.mp h
      rw [Value.itemsNesting, writeItems]
      exact hitem.bind fun text => (ih hrest).map (text :: ·)

theorem takes_writeEntries {layout : Layout} {room level : Nat} {entries : Entries}
    (hkeys : ∀ entry ∈ entries, ∃ key, entry.1 = .text key)
    (h : ∀ entry ∈ entries, Takes entry.2.nesting room (write layout room level entry.2)) :
    Takes (Value.entriesNesting entries) room (writeEntries layout room level entries) := by
  induction entries with
  | nil =>
      rw [Value.entriesNesting, writeEntries]
      exact .of_eq_ok rfl
  | cons entry rest ih =>
      obtain ⟨key, value⟩ := entry
      obtain ⟨⟨name, hname⟩, hrestKeys⟩ := List.forall_mem_cons.mp hkeys
      obtain ⟨hvalue, hrest⟩ := List.forall_mem_cons.mp h
      obtain rfl : key = .text name := hname
      rw [Value.entriesNesting, writeEntries]
      exact hvalue.bind fun text => (ih hrestKeys hrest).map (_ :: ·)

theorem takes_write {value : Value} (h : value.IsPageData) (layout : Layout) (room level : Nat) :
    Takes value.nesting room (write layout room level value) := by
  induction h generalizing room level with
  | null => exact .of_eq_ok rfl
  | bool b => exact .of_eq_ok rfl
  | int digits =>
      rw [write]
      exact takes_printInt digits room
  | float representable => exact .of_eq_ok rfl
  | text s => exact .of_eq_ok rfl
  | list members ih =>
      rw [Value.nesting, ← cost_descent layout, write]
      refine Takes.enter layout.descent (fun room => ?_) room
      exact (takes_writeItems fun item hitem => ih item hitem room (level + 1)).map _
  | map keys values ih =>
      rw [Value.nesting, ← cost_descent layout, write]
      refine Takes.enter layout.descent (fun room => ?_) room
      exact (takes_writeEntries keys fun entry hentry => ih entry hentry room (level + 1)).map _

end Json

namespace Value

theorem takes_displayItems {room : Nat} {items : List Value}
    (h : ∀ item ∈ items, Takes item.reach room (display room item)) :
    Takes (itemsReach items) room (displayItems room items) := by
  induction items with
  | nil =>
      rw [itemsReach, displayItems]
      exact .of_eq_ok rfl
  | cons item rest ih =>
      obtain ⟨hitem, hrest⟩ := List.forall_mem_cons.mp h
      rw [itemsReach, displayItems]
      exact hitem.bind fun text => (ih hrest).map (text :: ·)

theorem takes_display {value : Value} (h : value.IsPageData) (room : Nat) :
    Takes value.reach room (display room value) := by
  induction h generalizing room with
  | null => exact .of_eq_ok rfl
  | bool b => exact .of_eq_ok rfl
  | int digits =>
      rw [display]
      exact takes_printInt digits room
  | @float x representable =>
      rw [display]
      split
      · cases htruncate : x.truncate? with
        | none => exact takes_printInt (by decide) room
        | some n =>
            have hlt := Binary64.natAbs_truncate_lt representable htruncate
            exact takes_printInt (length_ofNat_le_of_lt_two_pow hlt) room
      · exact .of_eq_ok rfl
  | text s => exact .of_eq_ok rfl
  | list members ih =>
      rw [display, reach]
      refine Takes.enter .display (fun room => ?_) room
      exact (takes_displayItems fun item hitem => ih item hitem room).map _
  | map keys values ih =>
      rw [display]
      exact Json.takes_write (.map keys values) .compact room 0

theorem displayed_cases {value : Value} (h : value.IsPageData) (runtime : Runtime) :
    (value.reach ≤ runtime.room ∧ ∃ text, value.displayed runtime = .ok text) ∨
      (runtime.room < value.reach ∧
        ∃ descent, value.displayed runtime = .error (.unprintable (.tooDeep descent))) := by
  have hwalk := takes_display h runtime.room
  have hdisplayed : value.displayed runtime =
      (value.display runtime.room).mapError .unprintable := rfl
  rw [hdisplayed]
  generalize value.display runtime.room = walk at hwalk ⊢
  cases hwalk with
  | ok enough text => exact .inl ⟨enough, text, rfl⟩
  | tooDeep short descent => exact .inr ⟨short, descent, rfl⟩

end Value

end Clippings
