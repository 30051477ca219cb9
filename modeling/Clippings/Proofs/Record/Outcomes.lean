import Clippings.Proofs.Value.Entries
import Clippings.Record.Check

namespace Clippings

def Checked.Gives {α : Type} (q : α → Prop) (x : Checked α) : Prop := ∀ a, x = .valid a → q a

namespace Checked.Gives

variable {α β : Type} {p : α → Prop} {q : β → Prop}

theorem valid {a : α} (h : p a) : Gives p (.valid a) := by
  rintro _ ⟨⟩
  exact h

theorem invalid (issues : List Issue) : Gives p (.invalid issues) := by rintro _ ⟨⟩

theorem map {f : α → β} {x : Checked α} (h : Gives (fun a => q (f a)) x) : Gives q (x.map f) := by
  cases x with
  | valid a => exact .valid (h a rfl)
  | invalid issues => exact .invalid issues

theorem seq {f : Checked (α → β)} {x : Checked α} (hx : Gives p x)
    (hf : Gives (fun g => ∀ a, p a → q (g a)) f) : Gives q (f <*> x) := by
  cases f with
  | valid g => exact map fun a ha => hf g rfl a (hx a ha)
  | invalid issues => cases x <;> exact .invalid _

theorem andThen {f : α → Checked β} {x : Checked α} (hx : Gives p x)
    (hf : ∀ a, p a → Gives q (f a)) : Gives q (x.andThen f) := by
  cases x with
  | valid a => exact hf a (hx a rfl)
  | invalid issues => exact .invalid issues

theorem under {x : Checked α} (h : Gives p x) (step : Step) : Gives p (x.under step) := by
  cases x with
  | valid a => exact h
  | invalid issues => exact .invalid _

end Checked.Gives

namespace Check

variable {α : Type} {p : α → Prop} {check : Value → Checked α}

theorem gives_any (x : Checked α) : x.Gives fun _ => True := fun _ _ => trivial

theorem gives_whole (text : Text) : (whole text).Gives Text.IsWhole := by
  rw [whole]
  split
  · next hwhole => exact .valid hwhole
  · exact .invalid _

theorem gives_someText (value : Value) :
    (someText value).Gives fun text : Text => text ≠ [] ∧ text.IsWhole := by
  refine .andThen (.andThen (gives_any _) fun text _ => gives_whole text) fun text hwhole => ?_
  split
  · exact .invalid _
  · rename_i hne
    exact .valid ⟨by simpa using hne, hwhole⟩

theorem gives_orNull {value : Value} (h : (check value).Gives p) :
    (orNull check value).Gives fun found => ∀ a ∈ found, p a := by
  rw [orNull.eq_def]
  split
  · exact .valid (by simp)
  · exact .map fun a ha => by simpa using h a ha

theorem gives_items {values : List Value} (h : ∀ value ∈ values, (check value).Gives p)
    (index : Nat) : (items check index values).Gives fun found => ∀ a ∈ found, p a := by
  induction values generalizing index with
  | nil => exact .valid (by simp)
  | cons value rest ih =>
      obtain ⟨hvalue, hrest⟩ := List.forall_mem_cons.mp h
      refine .seq (ih hrest (index + 1)) (.map ?_)
      exact fun a ha others hothers => List.forall_mem_cons.mpr ⟨hvalue.under _ a ha, hothers⟩

theorem gives_list {value : Value}
    (h : ∀ values, value.items? = some values → ∀ item ∈ values, (check item).Gives p) :
    (list check value).Gives fun found => ∀ a ∈ found, p a := by
  rw [list]
  split
  · rename_i values hvalues
    exact gives_items (h values hvalues) 0
  · exact .invalid _

theorem gives_entries {r : Value → Prop} {fields : Entries}
    (h : ∀ entry ∈ fields, r entry.2) : (entries fields).Gives fun new =>
      ∀ entry ∈ new, (∃ key, entry.1 = .text key) ∧ r entry.2 := by
  induction fields with
  | nil => exact .valid (by simp)
  | cons entry rest ih =>
      obtain ⟨hvalue, hrest⟩ := List.forall_mem_cons.mp h
      refine .seq (ih hrest) (.map fun key _ new hnew => ?_)
      exact List.forall_mem_cons.mpr ⟨⟨⟨key, rfl⟩, hvalue⟩, hnew⟩

variable {r : Value → Prop} {value : Value}

theorem gives_mapping (h : ∀ fields, value = .map fields → ∀ entry ∈ fields, r entry.2) :
    (mapping value).Gives fun new =>
      ∀ entry ∈ new, (∃ key, entry.1 = .text key) ∧ r entry.2 := by
  cases value with
  | map fields => exact gives_entries (h fields rfl)
  | _ => exact .invalid _

theorem gives_record (name : Text)
    (h : ∀ fields, value = .map fields → ∀ entry ∈ fields, r entry.2) :
    (record name value).Gives fun fields => ∀ entry ∈ fields, r entry.2 := by
  cases value with
  | map fields => exact .valid (h fields rfl)
  | _ => exact .invalid _

end Check

namespace Field

variable {α : Type} {p : α → Prop} {r : Value → Prop} {fields : Entries}
  {check : Value → Checked α}

theorem mem_of_find? {field : Field} {name : Text} {value : Value}
    (h : field.find? fields = some (name, value)) : (.text name, value) ∈ fields := by
  rw [find?] at h
  split at h
  · rename_i found hfound
    obtain ⟨rfl, rfl⟩ := Prod.mk.inj (Option.some.inj h)
    exact Entries.mem_of_getText? hfound
  · obtain ⟨found, hfound, heq⟩ := Option.map_eq_some_iff.mp h
    obtain ⟨rfl, rfl⟩ := Prod.mk.inj heq
    exact Entries.mem_of_getText? hfound

theorem gives_required (field : Field) (hfields : ∀ entry ∈ fields, r entry.2)
    (hcheck : ∀ value, r value → (check value).Gives p) :
    (field.required check fields).Gives p := by
  rw [required]
  split
  · rename_i name value hfind
    exact .under (hcheck value (hfields _ (mem_of_find? hfind))) _
  · exact .invalid _

theorem gives_optional (field : Field) {default : α} (hfields : ∀ entry ∈ fields, r entry.2)
    (hdefault : p default) (hcheck : ∀ value, r value → (check value).Gives p) :
    (field.optional default check fields).Gives p := by
  rw [optional]
  split
  · rename_i name value hfind
    exact .under (hcheck value (hfields _ (mem_of_find? hfind))) _
  · exact .valid hdefault

theorem gives_required_someText (field : Field) (fields : Entries) :
    (field.required Check.someText fields).Gives fun text : Text => text ≠ [] ∧ text.IsWhole :=
  field.gives_required (r := fun _ => True) (fun _ _ => trivial)
    fun value _ => Check.gives_someText value

end Field

end Clippings
