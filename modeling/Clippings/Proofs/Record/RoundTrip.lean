import Clippings.Proofs.Note.Templates
import Clippings.Proofs.Page.Parts
import Clippings.Proofs.Record.Fields

namespace Clippings

theorem Check.orNull_textOrNull (text : Option Text) :
    Check.orNull Check.text (textOrNull text) = .valid text := by
  cases text <;> rfl

namespace Highlight

def timed (highlight : Highlight) : Highlight :=
  { highlight with timestamp := some (highlight.timestamp.getD .zero) }

/-- Highlights are equal if they are in all of their fields; an unknown time is the time 0. -/
def Equal (a b : Highlight) : Prop := a.timed = b.timed

theorem timed_timed (highlight : Highlight) : highlight.timed.timed = highlight.timed := rfl

theorem check_entries (highlight : Highlight) :
    check (.map highlight.entries) = .valid highlight.timed := by
  have htimestamp : Field.optional { name := "timestamp" } none (fun v => some <$> Check.number v)
      highlight.entries = .valid (some (highlight.timestamp.getD .zero)) := by
    refine Field.optional_eq_valid rfl ?_
    cases highlight.timestamp <;> rfl
  have hcolor : Field.optional { name := "color" } none (Check.orNull Check.text)
      highlight.entries = .valid highlight.color :=
    Field.optional_eq_valid rfl (Check.orNull_textOrNull _)
  have hnote : Field.optional { name := "note" } none (Check.orNull Check.text)
      highlight.entries = .valid highlight.note :=
    Field.optional_eq_valid rfl (Check.orNull_textOrNull _)
  simp only [check, Check.record, Checked.andThen, htimestamp, hcolor, hnote]
  rfl

end Highlight

namespace PageContent

/-- The content of a page with the time 0 for all highlights whose time is not known. -/
def timed (page : PageContent) : PageContent :=
  { page with highlights := page.highlights.map (·.map Highlight.timed) }

/-- Contents of pages are equal if they are in all of their fields; the unknown time of a highlight
is the time 0. -/
def Equal (a b : PageContent) : Prop := a.timed = b.timed

theorem timed_timed (page : PageContent) : page.timed.timed = page.timed := by
  have hmap (marked : List Highlight) :
      (marked.map Highlight.timed).map Highlight.timed = marked.map Highlight.timed := by
    rw [List.map_map]
    exact List.map_congr_left fun highlight _ => highlight.timed_timed
  simp only [timed, Option.map_map, Function.comp_def, hmap]

def HasTextKeys (entries : Entries) : Prop := ∀ entry ∈ entries, ∃ key, entry.1 = .text key

abbrev IsKeyed (page : PageContent) : Prop :=
  page.HasParts (fun _ => True) (fun _ => True) HasTextKeys

theorem gives_isKeyed (value : Value) : (check value).Gives IsKeyed := by
  refine gives_hasParts (r := fun _ => True) (fun _ _ _ _ => trivial)
    (fun _ _ => Check.gives_any _) trivial (fun _ _ => Check.gives_any _) trivial ?_
    (by simp [HasTextKeys])
  intro value _ entries hentries entry hentry
  exact (Check.gives_mapping (r := fun _ => True) (fun _ _ _ _ => trivial) entries hentries
    entry hentry).1

theorem check_entries {page : PageContent} (h : page.IsKeyed) (aliased : Bool) :
    check (.map (page.entries aliased)) = .valid page.timed := by
  have hwords : Field.optional { name := "words" } 0 Check.integer (page.entries aliased) =
      .valid page.words := Field.optional_eq_valid rfl rfl
  have hmetadata : Field.optional { name := "metadata" } [] Check.mapping (page.entries aliased) =
      .valid page.metadata := Field.optional_eq_valid rfl (Check.mapping_eq_valid h.metadata)
  have hhighlights : Field.optional { name := "highlights" } none
      (Check.orNull (Check.list Highlight.check)) (page.entries aliased) =
      .valid (page.highlights.map (·.map Highlight.timed)) := by
    refine Field.optional_eq_valid rfl ?_
    cases page.highlights with
    | none => rfl
    | some marked =>
      show (Check.list Highlight.check (.list (marked.map fun h => .map h.entries))).map some = _
      rw [Check.list_map fun highlight _ => highlight.check_entries]
      rfl
  have hselection : Field.optional { name := "selection" } none (Check.orNull Check.text)
      (page.entries aliased) = .valid page.selection :=
    Field.optional_eq_valid rfl (Check.orNull_textOrNull _)
  have hselectors : selectorsField.optional [] Check.mapping (page.entries aliased) =
      .valid page.selectors :=
    Field.optional_eq_valid (by cases aliased <;> rfl) (Check.mapping_eq_valid h.selectors)
  have hselectorsHtml : selectorsHtmlField.optional [] Check.mapping (page.entries aliased) =
      .valid page.selectorsHtml :=
    Field.optional_eq_valid (by cases aliased <;> rfl) (Check.mapping_eq_valid h.selectorsHtml)
  have hschema : schemaField.optional [] Check.mapping (page.entries aliased) =
      .valid page.schema :=
    Field.optional_eq_valid (by cases aliased <;> rfl) (Check.mapping_eq_valid h.schema)
  simp only [check, Check.record, Checked.andThen, hwords, hmetadata, hhighlights, hselection,
    hselectors, hselectorsHtml, hschema]
  -- What is left are the texts, which are where their fields look first.
  rfl

end PageContent

namespace Check

/-- Whatever data passed a check, the record that came of it passes the check in writing, by the
names of its fields and by their other names, and what comes of it is equal to the record. -/
theorem valid_again (value : Value) (aliased : Bool) :
    (∀ property, PropertyTemplate.check value = .valid property →
        PropertyTemplate.check (.map property.entries) = .valid property) ∧
      (∀ template, NoteTemplate.check value = .valid template →
        NoteTemplate.check (.map (template.entries aliased)) = .valid template) ∧
      (∀ highlight, Highlight.check value = .valid highlight →
        ∃ again, Highlight.check (.map highlight.entries) = .valid again ∧
          again.Equal highlight) ∧
      ∀ page, PageContent.check value = .valid page →
        ∃ again, PageContent.check (.map (page.entries aliased)) = .valid again ∧
          again.Equal page := by
  refine ⟨?_, ?_, ?_, ?_⟩
  · intro property h
    exact PropertyTemplate.check_entries (PropertyTemplate.gives_check value property h)
  · intro template h
    exact NoteTemplate.check_entries (NoteTemplate.gives_check value template h) aliased
  · intro highlight _
    exact ⟨highlight.timed, highlight.check_entries, highlight.timed_timed⟩
  · intro page h
    exact ⟨page.timed, PageContent.check_entries (PageContent.gives_isKeyed value page h) aliased,
      page.timed_timed⟩

def mixedTemplateData : Value :=
  .map [(.text "noteNameFormat", .text "N"), (.text "note_path", .text "p"),
    (.text "id", .text "t"), (.text "name", .text []), (.text "triggers", .tuple [.text "u"]),
    (.text "properties", .list [.map [(.text "type", .text "tags"), (.text "name", .text "n")]])]

def mixedTemplate : NoteTemplate :=
  { id := "t", name := [], nameFormat := "N", path := "p", triggers := ["u"],
    properties := [{ name := "n", kind := .tags }] }

/-- Data for a page: a truth value for a number, and times that are missing or texts. -/
def markedPageData : Value :=
  .map [(.text "words", .bool true), (.text "_schema", .map [(.text "k", .float .nan)]),
    (.text "highlights", .list [.map [(.text "text", .text "a")],
      .map [(.text "text", .text "b"), (.text "timestamp", .text " 1_0.5 ")]])]

def markedPage : PageContent :=
  { words := 1, schema := [(.text "k", .float .nan)],
    highlights := some [{ text := "a" },
      { text := "b", timestamp := some (.finite false 5910974510923776 (-49)) }] }

theorem valid_again_mixed :
    PropertyTemplate.check (.map [(.text "name", .text "n")]) = .valid { name := "n" } ∧
      PropertyTemplate.check (.map (PropertyTemplate.entries { name := "n" })) =
        .valid { name := "n" } ∧
      NoteTemplate.check mixedTemplateData = .valid mixedTemplate ∧
      NoteTemplate.check (.map (mixedTemplate.entries true)) = .valid mixedTemplate ∧
      Highlight.check (.map [(.text "text", .text "a")]) = .valid { text := "a" } ∧
      (∃ again, Highlight.check (.map (Highlight.entries { text := "a" })) = .valid again ∧
        again.Equal { text := "a" }) ∧
      PageContent.check markedPageData = .valid markedPage ∧
      ∃ again, PageContent.check (.map (markedPage.entries false)) = .valid again ∧
        again.Equal markedPage := by
  have hproperty : PropertyTemplate.check (.map [(.text "name", .text "n")]) =
      .valid { name := "n" } := rfl
  have htemplate : NoteTemplate.check mixedTemplateData = .valid mixedTemplate := by
    with_unfolding_all rfl
  have hhighlight : Highlight.check (.map [(.text "text", .text "a")]) = .valid { text := "a" } :=
    rfl
  have hpage : PageContent.check markedPageData = .valid markedPage := rfl
  exact ⟨hproperty, (valid_again _ true).1 _ hproperty, htemplate,
    (valid_again _ true).2.1 _ htemplate, hhighlight, (valid_again _ true).2.2.1 _ hhighlight,
    hpage, (valid_again _ false).2.2.2 _ hpage⟩

end Check

end Clippings
