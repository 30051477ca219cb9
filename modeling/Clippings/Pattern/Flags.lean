import Clippings.Pattern.Class

namespace Clippings.Pattern

/-- The switches that change how a pattern is read and matched. -/
structure Flags where
  ignoreCase : Bool := false
  multiline : Bool := false
  dotAll : Bool := false
  verbose : Bool := false
  ascii : Bool := false
  unicode : Bool := false
  locale : Bool := false
  template : Bool := false
  deriving DecidableEq, Repr

def Flags.ofLetter? : CodePoint → Option Flags
  | 'i' => some { ignoreCase := true }
  | 'L' => some { locale := true }
  | 'm' => some { multiline := true }
  | 's' => some { dotAll := true }
  | 'x' => some { verbose := true }
  | 'a' => some { ascii := true }
  | 't' => some { template := true }
  | 'u' => some { unicode := true }
  | _ => none

def Flags.union (a b : Flags) : Flags where
  ignoreCase := a.ignoreCase || b.ignoreCase
  multiline := a.multiline || b.multiline
  dotAll := a.dotAll || b.dotAll
  verbose := a.verbose || b.verbose
  ascii := a.ascii || b.ascii
  unicode := a.unicode || b.unicode
  locale := a.locale || b.locale
  template := a.template || b.template

def Flags.without (a b : Flags) : Flags where
  ignoreCase := a.ignoreCase && !b.ignoreCase
  multiline := a.multiline && !b.multiline
  dotAll := a.dotAll && !b.dotAll
  verbose := a.verbose && !b.verbose
  ascii := a.ascii && !b.ascii
  unicode := a.unicode && !b.unicode
  locale := a.locale && !b.locale
  template := a.template && !b.template

def Flags.meets (a b : Flags) : Bool :=
  (a.ignoreCase && b.ignoreCase) || (a.multiline && b.multiline) || (a.dotAll && b.dotAll) ||
    (a.verbose && b.verbose) || (a.ascii && b.ascii) || (a.unicode && b.unicode) ||
    (a.locale && b.locale) || (a.template && b.template)

/-- The switches that choose a repertoire of characters; only one may be on. -/
def Flags.repertoires : Flags := { ascii := true, unicode := true, locale := true }

def Flags.adjust (flags on off : Flags) : Flags :=
  let kept := if on.meets .repertoires then flags.without .repertoires else flags
  (kept.union on).without off

def Flags.reading (flags : Flags) : Reading := ⟨flags.ignoreCase, flags.ascii⟩

end Clippings.Pattern
