import Clippings.Number.Power
/-!
Floating-point numbers of the 64-bit binary format, given by an integer significand and a power of
two. Rounding is exact: `ofRatio` goes to the nearest number, and to the even one of two.
-/

namespace Clippings

/--
A number of the 64-bit binary format. The value of a finite one is `significand * 2 ^ exponent`;
those built by `Binary64.ofRatio` have a significand below `2 ^ 53` that is at least `2 ^ 52`
unless the exponent is the least one, `-1074`. Zero has exponent 0.
-/
inductive Binary64
  | nan
  | infinite (negative : Bool)
  | finite (negative : Bool) (significand : Nat) (exponent : Int)
  deriving DecidableEq, Repr, Inhabited

namespace Binary64

def leastExponent : Int := -1074

def greatestExponent : Int := 971

/-- The fraction `numerator / (denominator * 2 ^ exponent)` as a numerator and a denominator. -/
def scaled (numerator denominator : Nat) (exponent : Int) : Nat × Nat :=
  if exponent < 0 then (numerator * twoTo (-exponent).toNat, denominator)
  else (numerator, denominator * twoTo exponent.toNat)

def roundHalfEven (numerator denominator : Nat) : Nat :=
  let quotient := numerator / denominator
  let twice := 2 * (numerator % denominator)
  if twice > denominator || (twice = denominator && quotient % 2 = 1) then quotient + 1
  else quotient

/-- The exponent at which the integer part of a positive fraction has 53 bits, if the format
goes as low. -/
def exponentOf (numerator denominator : Nat) : Int :=
  let guess : Int := (numerator.log2 : Int) - denominator.log2 - 52
  let (n, d) := scaled numerator denominator guess
  max leastExponent (if n / d < twoTo 52 then guess - 1 else guess)

/-- The number nearest to a fraction with a positive denominator. -/
def ofRatio (negative : Bool) (numerator denominator : Nat) : Binary64 :=
  if numerator = 0 then finite negative 0 0
  else
    let exponent := exponentOf numerator denominator
    let (n, d) := scaled numerator denominator exponent
    let significand := roundHalfEven n d
    let (significand, exponent) :=
      if significand = twoTo 53 then (twoTo 52, exponent + 1) else (significand, exponent)
    if significand = 0 then finite negative 0 0
    else if greatestExponent < exponent then infinite negative
    else finite negative significand exponent

def ofInt (n : Int) : Binary64 := ofRatio (n < 0) n.natAbs 1

/-- The number nearest to `digits * 10 ^ exponent`, where `digits` has `count` digits. -/
def ofDecimal (negative : Bool) (digits count : Nat) (exponent : Int) : Binary64 :=
  if digits = 0 then finite negative 0 0
  else if 310 < (count : Int) + exponent then infinite negative
  else if (count : Int) + exponent < -330 then finite negative 0 0
  else if exponent < 0 then ofRatio negative digits (tenTo (-exponent).toNat)
  else ofRatio negative (digits * tenTo exponent.toNat) 1

def timesNat (x : Binary64) (n : Nat) : Binary64 :=
  match x with
  | finite negative significand exponent =>
    if exponent < 0 then ofRatio negative (significand * n) (twoTo (-exponent).toNat)
    else ofRatio negative (significand * n * twoTo exponent.toNat) 1
  | infinite negative => if n = 0 then nan else infinite negative
  | nan => nan

def negate : Binary64 → Binary64
  | nan => nan
  | infinite negative => infinite !negative
  | finite negative significand exponent => finite (!negative) significand exponent

/-- The multiple of a power of two that a signed significand is at a lower exponent. -/
def shifted (negative : Bool) (significand : Nat) (exponent lower : Int) : Int :=
  let magnitude : Int := (significand * twoTo (exponent - lower).toNat : Nat)
  if negative then -magnitude else magnitude

/-- The number nearest to the sum of two finite numbers. A sum of zero is positive, unless both
numbers are negative. -/
def add : Binary64 → Binary64 → Binary64
  | nan, _ | _, nan => nan
  | infinite m, infinite n => if m = n then infinite m else nan
  | infinite m, _ | _, infinite m => infinite m
  | finite s x e, finite t y f =>
    let lower := min e f
    let sum := shifted s x e lower + shifted t y f lower
    let negative := if sum = 0 then s && t else sum < 0
    if lower < 0 then ofRatio negative sum.natAbs (twoTo (-lower).toNat)
    else ofRatio negative (sum.natAbs * twoTo lower.toNat) 1

def zero : Binary64 := finite false 0 0

def isZero : Binary64 → Bool
  | finite _ significand _ => significand = 0
  | _ => false

def isFinite : Binary64 → Bool
  | finite .. => true
  | _ => false

/-- The integer that a finite number becomes when its fraction is cut off. -/
def truncate? : Binary64 → Option Int
  | finite negative significand exponent =>
    let magnitude : Nat :=
      if exponent < 0 then significand / twoTo (-exponent).toNat
      else significand * twoTo exponent.toNat
    some (if negative then -magnitude else magnitude)
  | _ => none

def isInteger : Binary64 → Bool
  | finite _ significand exponent =>
    exponent ≥ 0 || significand % twoTo (-exponent).toNat = 0
  | _ => false

def toInt? (x : Binary64) : Option Int := if x.isInteger then x.truncate? else none

/-- Equality of values: both zeros are equal, and no number equals a NaN. -/
def same : Binary64 → Binary64 → Bool
  | nan, _ | _, nan => false
  | x, y => (x.isZero && y.isZero) || x = y

end Binary64

end Clippings
