import Clippings.Text.Blank
import Clippings.Text.Case
import Clippings.Text.Letter
/-!
Markup of texts for the screen: tags between brackets set the style of what follows, or call a
handler for it, and a closing tag ends that. Styles are not kept here; only what is to be read is.
-/

namespace Clippings.Markup

def startsTag (c : CodePoint) : Bool := ('a' ≤ c && c ≤ 'z') || c = '#' || c = '/' || c = '@'

/-- What stands between brackets at the head of a text, if it looks like a tag, and what is behind
it. There is no bracket inside of a tag. -/
def bracketed? : Text → Option (Text × Text)
  | '[' :: c :: rest =>
    let inner := rest.takeWhile fun d => d ≠ .char ']' && d ≠ .char '['
    match rest.drop inner.length with
    | ']' :: behind => if startsTag c then some (c :: inner, behind) else none
    | _ => none
  | _ => none

def slashes (text : Text) : Text := text.takeWhile (· = '\\')

/-- Puts a backslash before everything that looks like a tag; the number bounds the length of the
text. -/
def escapeTags : Nat → Text → Text
  | 0, text => text
  | _, [] => []
  | fuel + 1, c :: rest =>
    let before := slashes (c :: rest)
    match bracketed? ((c :: rest).drop before.length) with
    | some (tag, behind) =>
      before ++ before ++ .char '\\' :: .char '[' :: tag ++ .char ']' :: escapeTags fuel behind
    | none => c :: escapeTags fuel rest

/-- Writes a text in markup. A single backslash at its end is written twice. -/
def escape (text : Text) : Text :=
  let escaped := escapeTags text.length text
  if escaped.getLast? = some (.char '\\') && escaped.dropLast.getLast? ≠ some (.char '\\') then
    escaped ++ [.char '\\']
  else escaped

def styleNames : List (Text × Text) :=
  [("b", "bold"), ("d", "dim"), ("i", "italic"), ("u", "underline"), ("uu", "underline2"),
   ("r", "reverse"), ("s", "strike"), ("o", "overline"), ("c", "conceal")]

/-- What is known of tags on a screen: the names of styles, and which parameters of a tag that calls
a handler can be evaluated. -/
structure Palette where
  styleName : Text → Text := fun name =>
    let name := Text.lower (Text.strip name)
    (styleNames.lookup name).getD name
  evaluates : Text → Bool := fun parameters => parameters.all fun c => Text.isWord c || c = '.'

/-- A tag that is open: the name of its style, and what stands behind an equals sign. -/
structure OpenTag where
  name : Text
  parameters : Text := []
  deriving DecidableEq, Repr

/-- Whether a tag can be closed: the parameters for a handler are evaluated then. -/
def OpenTag.closes (palette : Palette) (tag : OpenTag) : Bool :=
  tag.name.head? ≠ some (.char '@') || tag.parameters.isEmpty ||
    palette.evaluates (Text.strip tag.parameters)

/-- The tags that are open behind the end of one with a name, innermost first. -/
def closeTag (palette : Palette) (name : Text) (tags : List OpenTag) : Option (List OpenTag) := do
  let isClosed (tag : OpenTag) : Bool :=
    (Text.strip name).isEmpty || tag.name = palette.styleName name
  let tag ← tags.find? isClosed
  if tag.closes palette then some (tags.eraseP isClosed) else none

/-- The tags that are open behind a tag, innermost first. A closing tag needs one of its name, or
any if it has no name. -/
def afterTag (palette : Palette) (tags : List OpenTag) (tag : Text) : Option (List OpenTag) :=
  match Text.cut '=' tag with
  | ('/' :: name, _) => closeTag palette name tags
  | (name, parameters) =>
    some ({ name := palette.styleName name, parameters := parameters.getD [] } :: tags)

/-- What a text in markup shows while tags are open; the number bounds its length. Backslashes
before a tag stand for half as many, and an odd one makes the tag plain. A backslash before another
bracket does not show. -/
def visibleFrom (palette : Palette) : Nat → List OpenTag → Text → Option Text
  | 0, _, text => some text
  | _, _, [] => some []
  | fuel + 1, tags, c :: rest =>
    let before := slashes (c :: rest)
    match bracketed? ((c :: rest).drop before.length) with
    | some (tag, behind) =>
      let shown := before.take (before.length / 2)
      if before.length % 2 = 1 then
        (visibleFrom palette fuel tags behind).map (shown ++ .char '[' :: tag ++ .char ']' :: ·)
      else
        match afterTag palette tags tag with
        | none => none
        | some tags => (visibleFrom palette fuel tags behind).map (shown ++ ·)
    | none =>
      if c = '\\' && rest.head? = some (.char '[') then visibleFrom palette fuel tags rest
      else (visibleFrom palette fuel tags rest).map (c :: ·)

/-- What a text in markup shows, unless a closing tag closes nothing or a handler is called with
what cannot be evaluated. -/
def visible? (palette : Palette) (text : Text) : Option Text :=
  visibleFrom palette text.length [] text

end Clippings.Markup
