import Clippings.Yaml.Writer
import Clippings.Note.Template
/-!
Notes: properties, a body, and where they are kept. Properties stand in a block of YAML before the
body.
-/

namespace Clippings

/-- The block of properties before the body of a note; there is none without properties. -/
def frontmatter (properties : Value) : Except PrintError Text :=
  if properties.isTruthy then do return "---\n" ++ (← Yaml.write properties) ++ "---\n"
  else .ok []

structure Note where
  fileName : Text
  path : Text
  properties : Entries := []
  body : Text := []
  behavior : NoteBehavior := .create
  deriving Repr

def Note.markdown (note : Note) : Except PrintError Text := do
  return (← frontmatter (.map note.properties)) ++ note.body

end Clippings
