import Clippings.Text.Basic
import Clippings.Text.Ranges
import Clippings.Text.CaseTable
/-!
Upper and lower case of whole texts. A character may become several, and a capital sigma becomes a
final sigma at the end of a word.
-/

namespace Clippings.Text

def lowerSimple (c : CodePoint) : CodePoint :=
  if c.toNat = 0x130 then 'i' else CodePoint.ofNat (shiftBy c.toNat lowerRuns)

/-- The lower-case form of a character that is no capital sigma. -/
def lowerChar (c : CodePoint) : Text :=
  if c.toNat = 0x130 then ['i', CodePoint.ofNat 0x307]
  else [CodePoint.ofNat (shiftBy c.toNat lowerRuns)]

def upperChar (c : CodePoint) : Text :=
  match upperExpansions.lookup c.toNat with
  | some codes => codes.map CodePoint.ofNat
  | none => [CodePoint.ofNat (shiftBy c.toNat upperRuns)]

def startsCased : Text → Bool
  | [] => false
  | c :: rest =>
    if inRanges c.toNat caseIgnorableRanges then startsCased rest
    else inRanges c.toNat casedRanges

/-- The lower-case form of a text, after the characters `before` (nearest first). -/
def lowerAfter (before : Text) : Text → Text
  | [] => []
  | c :: rest =>
    (if c = 'Σ' then [if startsCased before && !startsCased rest then .char 'ς' else .char 'σ']
     else lowerChar c) ++ lowerAfter (c :: before) rest

def lower (text : Text) : Text := lowerAfter [] text

def upper (text : Text) : Text := text.flatMap upperChar

def upperFirst : Text → Text
  | [] => []
  | c :: rest => upperChar c ++ rest

def lowerFirst : Text → Text
  | [] => []
  | c :: rest => lower [c] ++ rest

end Clippings.Text
