import Clippings.Page.Content
import Clippings.Proofs.Record.Outcomes

namespace Clippings.PageContent

/-- The parts of a page that are no texts have some properties, all mappings the same one. -/
structure HasParts (words : Int → Prop) (highlights : Option (List Highlight) → Prop)
    (mapping : Entries → Prop) (page : PageContent) : Prop where
  words : words page.words
  metadata : mapping page.metadata
  highlights : highlights page.highlights
  selectors : mapping page.selectors
  selectorsHtml : mapping page.selectorsHtml
  schema : mapping page.schema

variable {words : Int → Prop} {highlights : Option (List Highlight) → Prop}
  {mapping : Entries → Prop}

theorem gives_hasParts {r : Value → Prop} {value : Value}
    (hvalue : ∀ fields, value = .map fields → ∀ entry ∈ fields, r entry.2)
    (hwords : ∀ value, r value → (Check.integer value).Gives words) (hnoWords : words 0)
    (hhighlights : ∀ value, r value →
      (Check.orNull (Check.list Highlight.check) value).Gives highlights)
    (hnoHighlights : highlights none)
    (hmapping : ∀ value, r value → (Check.mapping value).Gives mapping)
    (hnoEntries : mapping []) : (check value).Gives (HasParts words highlights mapping) := by
  refine .andThen (Check.gives_record _ hvalue) fun fields hfields => ?_
  have hmapping (field : Field) : (field.optional [] Check.mapping fields).Gives mapping :=
    field.gives_optional hfields hnoEntries hmapping
  refine .seq (hmapping _) (.seq (hmapping _) (.seq (hmapping _) (.seq (Check.gives_any _) ?_)))
  refine .seq (Field.gives_optional _ hfields hnoHighlights hhighlights) (.seq (hmapping _) ?_)
  refine .seq (Field.gives_optional _ hfields hnoWords hwords) ?_
  iterate 11 refine .seq (Check.gives_any _) ?_
  refine .map ?_
  intro title _ author _ date _ description _ content _ markdown _ url _ domain _ favicon _ image _
    published _ site _ words hwords metadata hmetadata highlights hhighlights selection _ selectors
    hselectors selectorsHtml hselectorsHtml schema hschema
  exact ⟨hwords, hmetadata, hhighlights, hselectors, hselectorsHtml, hschema⟩

end Clippings.PageContent
