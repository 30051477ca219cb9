import Clippings.Record.Check
import Mathlib.Logic.Function.Basic

namespace Clippings

namespace Field

variable {α : Type} {field : Field} {fields : Entries} {value : Value}
  {check : Value → Checked α} {a : α}

theorem required_eq_valid (hfind : (field.find? fields).map (·.2) = some value)
    (hcheck : check value = .valid a) : field.required check fields = .valid a := by
  obtain ⟨⟨name, found⟩, hfound, rfl⟩ := Option.map_eq_some_iff.mp hfind
  rw [required, hfound]
  simp only [hcheck, Checked.under]

theorem optional_eq_valid {default : α} (hfind : (field.find? fields).map (·.2) = some value)
    (hcheck : check value = .valid a) : field.optional default check fields = .valid a := by
  obtain ⟨⟨name, found⟩, hfound, rfl⟩ := Option.map_eq_some_iff.mp hfind
  rw [optional, hfound]
  simp only [hcheck, Checked.under]

end Field

namespace Check

variable {α β : Type} {check : Value → Checked α}

theorem someText_eq_valid {s : Text} (hne : s ≠ []) (hwhole : s.IsWhole) :
    someText (.text s) = .valid s := by
  simp only [someText, text, whole, Checked.andThen, if_pos hwhole]
  exact if_neg (by simpa using hne)

theorem among_eq_valid {members : List α} {word : α → Text} (hword : Function.Injective word)
    {member : α} (hmem : member ∈ members) (hwhole : (word member).IsWhole) :
    among members word (.text (word member)) = .valid member := by
  have hfind : members.find? (word · = word member) = some member := by
    obtain ⟨found, hfound⟩ : ∃ found, members.find? (word · = word member) = some found := by
      rw [← Option.isSome_iff_exists, List.find?_isSome]
      exact ⟨member, hmem, by simp⟩
    have hsame := List.find?_some hfound
    rw [decide_eq_true_eq] at hsame
    rw [hfound, hword hsame]
  simp only [among, whole, if_pos hwhole, Checked.andThen, hfind]

theorem items_map {write : β → Value} {g : β → α} {members : List β}
    (h : ∀ member ∈ members, check (write member) = .valid (g member)) (index : Nat) :
    items check index (members.map write) = .valid (members.map g) := by
  induction members generalizing index with
  | nil => rfl
  | cons member rest ih =>
      obtain ⟨hmember, hrest⟩ := List.forall_mem_cons.mp h
      rw [List.map_cons, items, hmember, ih hrest]
      rfl

theorem list_map {write : β → Value} {g : β → α} {members : List β}
    (h : ∀ member ∈ members, check (write member) = .valid (g member)) :
    list check (.list (members.map write)) = .valid (members.map g) :=
  items_map h 0

theorem list_map_self {write : α → Value} {members : List α}
    (h : ∀ member ∈ members, check (write member) = .valid member) :
    list check (.list (members.map write)) = .valid members := by
  have hread := list_map (g := id) h
  rwa [List.map_id] at hread

theorem mapping_eq_valid {fields : Entries} (h : ∀ entry ∈ fields, ∃ key, entry.1 = .text key) :
    mapping (.map fields) = .valid fields := by
  rw [mapping]
  induction fields with
  | nil => rfl
  | cons entry rest ih =>
      obtain ⟨key, value⟩ := entry
      obtain ⟨⟨name, hname⟩, hrest⟩ := List.forall_mem_cons.mp h
      obtain rfl : key = .text name := hname
      rw [entries, ih hrest]
      rfl

end Check

end Clippings
