import Clippings.Filter.Action

namespace Clippings

namespace Filter

variable (runtime : Runtime)

def date : Filter where
  label := "date_filter"
  summary := "Format a date using YYYY, MM, DD, HH, mm and ss tokens."
  most := some 1
  action := formatDate

def lower : Filter where
  label := "lower"
  summary := "Lower-case the text."
  action := onText runtime Text.lower

def upper : Filter where
  label := "upper"
  summary := "Upper-case the text."
  action := onText runtime Text.upper

def capitalize : Filter where
  label := "capitalize"
  summary := "Upper-case the first character only."
  action := onText runtime Text.upperFirst

def title : Filter where
  label := "title"
  summary := "Upper-case the first letter of every word."
  action := onText runtime Text.titleCase

def trim : Filter where
  label := "trim"
  summary := "Strip surrounding whitespace."
  action := onText runtime Text.strip

def replace : Filter where
  label := "replace"
  summary := "Replace every match of the regular expression \x60\x60search\x60\x60."
  most := some 2
  action := replaceMatches runtime

def cut : Filter where
  label := "slice_filter"
  summary := "Slice the text between numeric bounds; negative bounds count from the end."
  most := some 2
  action := slice runtime

def camel : Filter where
  label := "camel"
  summary := "Convert to camelCase."
  action := onText runtime Text.camelCase

def pascal : Filter where
  label := "pascal"
  summary := "Convert to PascalCase."
  action := onText runtime Text.pascalCase

def snake : Filter where
  label := "snake"
  summary := "Convert to snake_case."
  action := onText runtime Text.snakeCase

def kebab : Filter where
  label := "kebab"
  summary := "Convert to kebab-case."
  action := onText runtime Text.kebabCase

def safeName : Filter where
  label := "safe_name"
  summary := "Remove characters that are not allowed in file names."
  action := onText runtime Text.safeName

def blockquote : Filter where
  label := "blockquote"
  summary := "Prefix every line with \x60\x60> \x60\x60."
  action := onText runtime quoteLines

def wikilink : Filter where
  label := "wikilink"
  summary := "Wrap in \x60\x60[[ ]]\x60\x60; lists are linked element by element."
  most := some 1
  action := linkPages runtime

def link : Filter where
  label := "link"
  summary := "Build a Markdown link, using the value as text when none is given."
  most := some 1
  action := linkText runtime

def join : Filter where
  label := "join"
  summary := "Join list items with \x60\x60separator\x60\x60."
  most := some 1
  action := joinItems runtime

def split : Filter where
  label := "split"
  summary := "Split the text on \x60\x60separator\x60\x60."
  most := some 1
  action := splitText runtime

def first : Filter where
  label := "first"
  summary := "First list item."
  action := pick List.head?

def last : Filter where
  label := "last"
  summary := "Last list item."
  action := pick List.getLast?

def distinct : Filter where
  label := "unique"
  summary := "Drop repeated list items, keeping the first occurrence."
  action := unique

def list : Filter where
  label := "list_filter"
  summary := "Render a list as bullet, numbered, task or numbered-task lines."
  most := some 1
  action := listLines runtime

def length : Filter where
  label := "length"
  summary := "Length of a list or string, or key count of a mapping."
  action := measure

def default : Filter where
  label := "default"
  summary := "Use \x60\x60fallback\x60\x60 when the value is missing or an empty string."
  most := some 1
  action := orElse

def json : Filter where
  label := "json_filter"
  summary := "Serialize the value as indented JSON."
  action := writeJson runtime

def parseJson : Filter where
  label := "parse_json"
  summary := "Parse JSON text; invalid JSON is returned unchanged."
  action := readJson runtime

def stripHtml : Filter where
  label := "strip_html"
  summary := "Remove every tag-like substring."
  action := onText runtime Text.stripTags

def stripMarkdown : Filter where
  label := "strip_md"
  summary := "Remove common Markdown emphasis, link, heading and list syntax."
  action := onText runtime Text.stripMarkdown

end Filter

def FilterTable.builtin (runtime : Runtime) : FilterTable :=
  [("date", Filter.date), ("lower", Filter.lower runtime), ("upper", Filter.upper runtime),
   ("capitalize", Filter.capitalize runtime), ("title", Filter.title runtime),
   ("trim", Filter.trim runtime), ("replace", Filter.replace runtime),
   ("slice", Filter.cut runtime), ("camel", Filter.camel runtime),
   ("pascal", Filter.pascal runtime), ("snake", Filter.snake runtime),
   ("kebab", Filter.kebab runtime), ("safe_name", Filter.safeName runtime),
   ("blockquote", Filter.blockquote runtime), ("wikilink", Filter.wikilink runtime),
   ("link", Filter.link runtime), ("join", Filter.join runtime), ("split", Filter.split runtime),
   ("first", Filter.first), ("last", Filter.last), ("unique", Filter.distinct),
   ("list", Filter.list runtime), ("length", Filter.length), ("default", Filter.default),
   ("json", Filter.json runtime), ("parse_json", Filter.parseJson runtime),
   ("strip_html", Filter.stripHtml runtime), ("strip_md", Filter.stripMarkdown runtime)]

end Clippings
