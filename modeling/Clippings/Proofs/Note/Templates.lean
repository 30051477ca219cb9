import Clippings.Note.Template
import Clippings.Proofs.Record.Fields
import Clippings.Proofs.Record.Outcomes
import Clippings.Proofs.Text.Order

namespace Clippings

namespace PropertyKind

theorem mem_all (kind : PropertyKind) : kind ∈ all := by cases kind <;> decide

theorem name_injective : Function.Injective name := by
  have hdistinct : ∀ a ∈ all, ∀ b ∈ all, a.name = b.name → a = b := by decide
  exact fun a b h => hdistinct a a.mem_all b b.mem_all h

theorem isWhole_name (kind : PropertyKind) : kind.name.IsWhole := by cases kind <;> decide

end PropertyKind

namespace NoteBehavior

theorem mem_all (behavior : NoteBehavior) : behavior ∈ all := by cases behavior <;> decide

theorem name_injective : Function.Injective name := by
  have hdistinct : ∀ a ∈ all, ∀ b ∈ all, a.name = b.name → a = b := by decide
  exact fun a b h => hdistinct a a.mem_all b b.mem_all h

theorem isWhole_name (behavior : NoteBehavior) : behavior.name.IsWhole := by
  cases behavior <;> decide

end NoteBehavior

namespace PropertyTemplate

def IsNamed (property : PropertyTemplate) : Prop :=
  property.name ≠ [] ∧ property.name.IsWhole

theorem gives_check (value : Value) : (check value).Gives IsNamed := by
  refine .andThen (Check.gives_any _) fun fields _ => ?_
  refine .seq (Check.gives_any _) (.seq (Check.gives_any _) (.map ?_))
  exact fun name hname _ _ _ _ => Field.gives_required_someText _ fields name hname

theorem check_entries {property : PropertyTemplate} (h : property.IsNamed) :
    check (.map property.entries) = .valid property := by
  have hname : Field.required { name := "name" } Check.someText property.entries =
      .valid property.name := Field.required_eq_valid rfl (Check.someText_eq_valid h.1 h.2)
  have hkind : Field.optional { name := "type" } .text
      (Check.among PropertyKind.all PropertyKind.name) property.entries = .valid property.kind :=
    Field.optional_eq_valid rfl (Check.among_eq_valid PropertyKind.name_injective
      property.kind.mem_all property.kind.isWhole_name)
  simp only [check, Check.record, Checked.andThen, hname, hkind]
  rfl

end PropertyTemplate

namespace NoteTemplate

/-- A template has an identity, and properties with names that differ from one another. -/
structure IsValid (template : NoteTemplate) : Prop where
  identified : template.id ≠ [] ∧ template.id.IsWhole
  named : ∀ property ∈ template.properties, property.IsNamed
  distinct : (template.properties.map (·.name)).Nodup

theorem repeatedNames_eq_nil_iff {properties : List PropertyTemplate} :
    repeatedNames properties = [] ↔ (properties.map (·.name)).Nodup := by
  have hempty {texts : List Text} : Text.sortedSet texts = [] ↔ texts = [] := by
    simp only [List.eq_nil_iff_forall_not_mem, Text.mem_sortedSet]
  rw [repeatedNames, hempty, List.filter_eq_nil_iff, List.nodup_iff_count_le_one]
  constructor
  · intro h name
    by_cases hmem : name ∈ properties.map (·.name)
    · simpa using h name hmem
    · rw [List.count_eq_zero_of_not_mem hmem]
      exact Nat.zero_le 1
  · intro h name _
    simpa using h name

theorem gives_distinctNames (properties : List PropertyTemplate) :
    (distinctNames properties).Gives fun found =>
      found = properties ∧ (properties.map (·.name)).Nodup := by
  rw [distinctNames]
  split
  · next hnames => exact .valid ⟨rfl, repeatedNames_eq_nil_iff.mp hnames⟩
  · exact .invalid _

theorem gives_checkProperties (value : Value) : (checkProperties value).Gives fun properties =>
    (∀ property ∈ properties, property.IsNamed) ∧ (properties.map (·.name)).Nodup := by
  refine .andThen (Check.gives_list fun _ _ item _ => PropertyTemplate.gives_check item) ?_
  intro properties hnamed found hfound
  obtain ⟨rfl, hdistinct⟩ := gives_distinctNames properties found hfound
  exact ⟨hnamed, hdistinct⟩

theorem gives_check (value : Value) : (check value).Gives IsValid := by
  refine .andThen (Check.gives_any _) fun fields _ => ?_
  have hproperties : (Field.optional { name := "properties" } [] checkProperties fields).Gives
      fun properties => (∀ property ∈ properties, property.IsNamed) ∧
        (properties.map (·.name)).Nodup :=
    Field.gives_optional (r := fun _ => True) _ (fun _ _ => trivial) (by simp)
      fun value _ => gives_checkProperties value
  iterate 3 refine .seq (Check.gives_any _) ?_
  refine .seq hproperties ?_
  iterate 4 refine .seq (Check.gives_any _) ?_
  refine .map ?_
  intro id hid _ _ _ _ _ _ _ _ properties hproperties _ _ _ _ _ _
  exact ⟨Field.gives_required_someText _ fields id hid, hproperties.1, hproperties.2⟩

theorem checkProperties_entries {properties : List PropertyTemplate}
    (hnamed : ∀ property ∈ properties, property.IsNamed)
    (hdistinct : (properties.map (·.name)).Nodup) :
    checkProperties (.list (properties.map fun p => .map p.entries)) = .valid properties := by
  have hread := Check.list_map_self fun property hmem =>
    PropertyTemplate.check_entries (hnamed property hmem)
  rw [checkProperties, hread, Checked.andThen, distinctNames,
    repeatedNames_eq_nil_iff.mpr hdistinct]

theorem check_entries {template : NoteTemplate} (h : template.IsValid) (aliased : Bool) :
    check (.map (template.entries aliased)) = .valid template := by
  have hid : Field.required { name := "id" } Check.someText (template.entries aliased) =
      .valid template.id :=
    Field.required_eq_valid rfl (Check.someText_eq_valid h.identified.1 h.identified.2)
  have hbehavior : Field.optional { name := "behavior" } .create
      (Check.among NoteBehavior.all NoteBehavior.name) (template.entries aliased) =
      .valid template.behavior :=
    Field.optional_eq_valid rfl
      (Check.among_eq_valid NoteBehavior.name_injective template.behavior.mem_all
        template.behavior.isWhole_name)
  have hproperties : Field.optional { name := "properties" } [] checkProperties
      (template.entries aliased) = .valid template.properties :=
    Field.optional_eq_valid (by cases aliased <;> rfl)
      (checkProperties_entries h.named h.distinct)
  have htriggers : Field.optional { name := "triggers" } [] (Check.list Check.text)
      (template.entries aliased) = .valid template.triggers :=
    Field.optional_eq_valid (by cases aliased <;> rfl) (Check.list_map_self fun _ _ => rfl)
  have hinterpreter : interpreterField.optional none (Check.orNull Check.text)
      (template.entries aliased) = .valid template.interpreterContext := by
    obtain ⟨_, _, _, _, _, _, _, _, context⟩ := template
    cases context <;> cases aliased <;> rfl
  simp only [check, Check.record, Checked.andThen, hid, hbehavior, hproperties, htriggers,
    hinterpreter]
  -- What is left are the texts, each at one of the two names of its field.
  cases aliased <;> rfl

end NoteTemplate

end Clippings
