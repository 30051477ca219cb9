import Clippings.Command.Session
import Clippings.Screen.Frame

namespace Clippings.Command

def filtersForm : CommandForm where
  call := "webclipper filters"
  usage := "[OPTIONS]"
  options := []

def filterExamples : List (Text × Text) :=
  [("date", "\x7b\x7bpublished|date:\"YYYY-MM-DD\"\x7d\x7d"),
   ("replace", "\x7b\x7btitle|replace:\" \":\"-\"\x7d\x7d"),
   ("slice", "\x7b\x7btitle|slice:0,10\x7d\x7d"),
   ("wikilink", "\x7b\x7btags|wikilink\x7d\x7d"),
   ("link", "\x7b\x7burl|link:\"source\"\x7d\x7d"),
   ("join", "\x7b\x7btags|join:\" \"\x7d\x7d"),
   ("split", "\x7b\x7bkeywords|split:\",\"\x7d\x7d"),
   ("list", "\x7b\x7bhighlights|list:\"task\"\x7d\x7d"),
   ("default", "\x7b\x7bauthor|default:\"Unknown\"\x7d\x7d")]

def exampleOf (name : Text) : Text :=
  (filterExamples.lookup name).getD ("\x7b\x7bvalue|" ++ name ++ "\x7d\x7d")

def filterTable : Text :=
  Screen.table ["Filter", "Description", "Example"]
    ((FilterTable.builtin {}).map fun (name, filter) => [name, filter.summary, exampleOf name])

def namespaceLines : List Text :=
  ["meta:name:description - Page meta tags",
   "selector:h1 - Text of a CSS selector match",
   "selectorHtml:article - HTML of a CSS selector match",
   "schema:@Recipe:name - Schema.org JSON-LD data",
   "\"summarize this page\" - Prompt for an interpreter"]

def exampleTemplate : List Text :=
  ["# \x7b\x7btitle\x7d\x7d",
   "",
   "> [!info] \x7b\x7bsite|default:\"Unknown site\"\x7d\x7d",
   "> Published \x7b\x7bpublished|date:\"YYYY-MM-DD\"\x7d\x7d",
   "",
   "\x7b\x7bcontent\x7d\x7d",
   "",
   "Tags: \x7b\x7bmeta:name:keywords|split:\",\"|wikilink|join:\" \"\x7d\x7d"]

def filtersText : Text :=
  ("🔧 Available Filters\n\n" : Text) ++ filterTable ++ ("\nVariable namespaces:\n" : Text) ++
    namespaceLines.flatMap (fun line => ("  • " : Text) ++ line ++ [.char '\n']) ++
    Screen.panel "Example Template" exampleTemplate

variable {m : Type → Type} [Monad m]

def filters : Session m Unit := Session.write filtersText

end Clippings.Command
