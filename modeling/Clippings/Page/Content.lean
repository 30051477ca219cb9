import Clippings.Record.Number

namespace Clippings

structure Highlight where
  text : Text
  html : Text := []
  timestamp : Option Binary64 := none
  color : Option Text := none
  note : Option Text := none
  deriving DecidableEq, Repr

def textOrNull : Option Text → Value
  | some s => .text s
  | none => .null

namespace Highlight

def check (value : Value) : Checked Highlight :=
  (Check.record "Highlight" value).andThen fun fields =>
    mk <$> Field.required { name := "text" } Check.text fields
      <*> Field.optional { name := "html" } [] Check.text fields
      <*> Field.optional { name := "timestamp" } none (fun v => some <$> Check.number v) fields
      <*> Field.optional { name := "color" } none (Check.orNull Check.text) fields
      <*> Field.optional { name := "note" } none (Check.orNull Check.text) fields

def entries (highlight : Highlight) : Entries :=
  [(.text "text", .text highlight.text), (.text "html", .text highlight.html),
   (.text "timestamp",
    match highlight.timestamp with
    | some x => .float x
    | none => .int 0),
   (.text "color", textOrNull highlight.color), (.text "note", textOrNull highlight.note)]

end Highlight

structure PageContent where
  title : Text := []
  author : Text := []
  date : Text := []
  description : Text := []
  content : Text := []
  markdown : Text := []
  url : Text := []
  domain : Text := []
  favicon : Text := []
  image : Text := []
  published : Text := []
  site : Text := []
  words : Int := 0
  metadata : Entries := []
  highlights : Option (List Highlight) := none
  selection : Option Text := none
  selectors : Entries := []
  selectorsHtml : Entries := []
  schema : Entries := []
  deriving Repr

namespace PageContent

def selectorsField : Field := { name := "selectors", external := "_selectors" }

def selectorsHtmlField : Field := { name := "selectors_html", external := "_selectorsHtml" }

def schemaField : Field := { name := "schema_org", external := "_schema" }

def check (value : Value) : Checked PageContent :=
  (Check.record "ExtractedContent" value).andThen fun fields =>
    let text (name : Text) : Checked Text := Field.optional { name } [] Check.text fields
    mk <$> text "title" <*> text "author" <*> text "date" <*> text "description"
      <*> text "content" <*> text "markdown" <*> text "url" <*> text "domain" <*> text "favicon"
      <*> text "image" <*> text "published" <*> text "site"
      <*> Field.optional { name := "words" } 0 Check.integer fields
      <*> Field.optional { name := "metadata" } [] Check.mapping fields
      <*> Field.optional { name := "highlights" } none
        (Check.orNull (Check.list Highlight.check)) fields
      <*> Field.optional { name := "selection" } none (Check.orNull Check.text) fields
      <*> selectorsField.optional [] Check.mapping fields
      <*> selectorsHtmlField.optional [] Check.mapping fields
      <*> schemaField.optional [] Check.mapping fields

/-- The data for the content of a page, by the other names of its fields or not. -/
def entries (aliased : Bool) (page : PageContent) : Entries :=
  [(.text "title", .text page.title), (.text "author", .text page.author),
   (.text "date", .text page.date), (.text "description", .text page.description),
   (.text "content", .text page.content), (.text "markdown", .text page.markdown),
   (.text "url", .text page.url), (.text "domain", .text page.domain),
   (.text "favicon", .text page.favicon), (.text "image", .text page.image),
   (.text "published", .text page.published), (.text "site", .text page.site),
   (.text "words", .int page.words), (.text "metadata", .map page.metadata),
   (.text "highlights",
    match page.highlights with
    | some highlights => .list (highlights.map fun h => .map h.entries)
    | none => .null),
   (.text "selection", textOrNull page.selection),
   (selectorsField.label aliased, .map page.selectors),
   (selectorsHtmlField.label aliased, .map page.selectorsHtml),
   (schemaField.label aliased, .map page.schema)]

end PageContent

end Clippings
