import Clippings.Text.Quoted
import Clippings.Text.Digit
/-!
UTF-8. Decoding stops at the first malformed sequence and says which bytes are wrong and why.
-/

namespace Clippings

abbrev Bytes := List UInt8

namespace Text.Utf8

inductive Cause
  | startByte
  | continuationByte
  | endOfData
  deriving DecidableEq, Repr

/-- A malformed sequence: its first byte, its position and its length. -/
structure Malformed where
  byte : UInt8
  position : Nat
  length : Nat
  cause : Cause
  deriving DecidableEq, Repr

def Cause.message : Cause → Text
  | .startByte => "invalid start byte"
  | .continuationByte => "invalid continuation byte"
  | .endOfData => "unexpected end of data"

def Malformed.message (m : Malformed) : Text :=
  if m.length = 1 then
    "'utf-8' codec can't decode byte 0x" ++ hexDigits 2 m.byte.toNat ++ " in position "
      ++ ofNat m.position ++ ": " ++ m.cause.message
  else
    "'utf-8' codec can't decode bytes in position " ++ ofNat m.position ++ "-"
      ++ ofNat (m.position + m.length - 1) ++ ": " ++ m.cause.message

def isContinuation (b : UInt8) : Bool := 0x80 ≤ b && b ≤ 0xBF

def payload (b : UInt8) : Nat := b.toNat % 64

/-- The bytes that may follow a leading byte directly; this keeps out overlong forms,
surrogates and code points beyond the last. -/
def secondRange (lead : UInt8) : UInt8 × UInt8 :=
  if lead = 0xE0 then (0xA0, 0xBF)
  else if lead = 0xED then (0x80, 0x9F)
  else if lead = 0xF0 then (0x90, 0xBF)
  else if lead = 0xF4 then (0x80, 0x8F)
  else (0x80, 0xBF)

def sequenceLength (lead : UInt8) : Option Nat :=
  if lead < 0x80 then some 1
  else if lead < 0xC2 then none
  else if lead < 0xE0 then some 2
  else if lead < 0xF0 then some 3
  else if lead < 0xF5 then some 4
  else none

/-- Reads the continuation bytes of a sequence: `need` more are due, `seen` bytes were read. -/
def readRest (lead : UInt8) (position : Nat) :
    Nat → Nat → Nat → Bytes → Except Malformed (Nat × Bytes)
  | 0, _, code, rest => .ok (code, rest)
  | _ + 1, seen, _, [] => .error ⟨lead, position, seen, .endOfData⟩
  | need + 1, seen, code, b :: rest =>
    let (low, high) := if seen = 1 then secondRange lead else (0x80, 0xBF)
    if low ≤ b && b ≤ high then readRest lead position need (seen + 1) (code * 64 + payload b) rest
    else .error ⟨lead, position, seen, .continuationByte⟩

def leadPayload (lead : UInt8) (length : Nat) : Nat :=
  if length = 1 then lead.toNat
  else if length = 2 then lead.toNat % 32
  else if length = 3 then lead.toNat % 16
  else lead.toNat % 8

/-- Decodes bytes from a position on; the number bounds the characters still to read. -/
def decodeFrom : Nat → Nat → Bytes → Except Malformed Text
  | 0, _, _ => .ok []
  | _, _, [] => .ok []
  | fuel + 1, position, lead :: rest =>
    match sequenceLength lead with
    | none => .error ⟨lead, position, 1, .startByte⟩
    | some length => do
      let (code, rest) ←
        readRest lead position (length - 1) 1 (leadPayload lead length) rest
      let text ← decodeFrom fuel (position + length) rest
      return CodePoint.ofNat code :: text

def decode (bytes : Bytes) : Except Malformed Text := decodeFrom bytes.length 0 bytes

def encodeChar (c : Char) : Bytes :=
  let n := c.toNat
  if n < 0x80 then [n.toUInt8]
  else if n < 0x800 then [(0xC0 + n / 64).toUInt8, (0x80 + n % 64).toUInt8]
  else if n < 0x10000 then
    [(0xE0 + n / 4096).toUInt8, (0x80 + n / 64 % 64).toUInt8, (0x80 + n % 64).toUInt8]
  else
    [(0xF0 + n / 262144).toUInt8, (0x80 + n / 4096 % 64).toUInt8, (0x80 + n / 64 % 64).toUInt8,
      (0x80 + n % 64).toUInt8]

/-- The bytes of a code point. In the name of a file, half of a pair may stand for a byte that is
not UTF-8. -/
def encodePoint : CodePoint → Bytes
  | .char c => encodeChar c
  | .half unit => if 0x480 ≤ unit.val && unit.val < 0x500 then [(unit.val - 0x400).toUInt8] else []

def encode (text : Text) : Bytes := text.flatMap encodePoint

/-- Halves of pairs that follow one another and cannot be encoded: the first of them, its position
and their number. -/
structure Unencodable where
  first : CodePoint
  position : Nat
  length : Nat
  deriving DecidableEq, Repr

def Unencodable.message (fault : Unencodable) : Text :=
  if fault.length = 1 then
    "'utf-8' codec can't encode character '" ++ codeEscape fault.first ++ "' in position " ++
      ofNat fault.position ++ ": surrogates not allowed"
  else
    "'utf-8' codec can't encode characters in position " ++ ofNat fault.position ++ "-" ++
      ofNat (fault.position + fault.length - 1) ++ ": surrogates not allowed"

/-- The first code points of a text that are refused, if there are any. -/
def firstRefused? (isRefused : CodePoint → Bool) (text : Text) : Option Unencodable :=
  match text.dropWhile (!isRefused ·) with
  | [] => none
  | c :: rest => some {
      first := c
      position := text.length - (rest.length + 1)
      length := ((c :: rest).takeWhile isRefused).length }

def unencodable? (text : Text) : Option Unencodable := firstRefused? CodePoint.isHalf text

/-- The first code points of the name of a file that stand for no bytes. -/
def unnameable? (name : Text) : Option Unencodable :=
  firstRefused? (fun c => (encodePoint c).isEmpty) name

/-- Decodes bytes with the replacement character for what is malformed; the number bounds the
characters still to read. -/
def decodeReplacing : Nat → Bytes → Text
  | 0, _ | _, [] => []
  | fuel + 1, lead :: rest =>
    match sequenceLength lead with
    | none => '\uFFFD' :: decodeReplacing fuel rest
    | some length =>
      match readRest lead 0 (length - 1) 1 (leadPayload lead length) rest with
      | .ok (code, rest) => CodePoint.ofNat code :: decodeReplacing fuel rest
      | .error fault => '\uFFFD' :: decodeReplacing fuel (rest.drop (fault.length - 1))

/-- The name of a file as it is shown. -/
def shownName (name : Text) : Text :=
  let bytes := encode name
  decodeReplacing bytes.length bytes

end Text.Utf8

def Text.unifyLineEndings : Text → Text
  | [] => []
  | ['\r'] => ['\n']
  | '\r' :: '\n' :: rest => '\n' :: unifyLineEndings rest
  | '\r' :: c :: rest => '\n' :: unifyLineEndings (c :: rest)
  | c :: rest => c :: unifyLineEndings rest

end Clippings
