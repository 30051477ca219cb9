import Clippings.Number.Binary64
import Clippings.Text.Digit
/-!
The text of a floating-point number: the fewest digits that read back, and of those texts the
nearest to the number. Positional notation holds from `0.0001` up to below `10 ^ 16`.
-/

namespace Clippings.Binary64

/-- The fraction `10 ^ exponent` as a numerator and a denominator. -/
def powerOfTen (exponent : Int) : Nat × Nat :=
  if exponent < 0 then (1, tenTo (-exponent).toNat) else (tenTo exponent.toNat, 1)

/-- The fraction `2 ^ exponent` as a numerator and a denominator. -/
def powerOfTwo (exponent : Int) : Nat × Nat :=
  if exponent < 0 then (1, twoTo (-exponent).toNat) else (twoTo exponent.toNat, 1)

/-- The exponent of the leading decimal digit of `significand * 2 ^ exponent`. -/
def decimalExponent (significand : Nat) (exponent : Int) : Int :=
  let guess : Int := (((significand.log2 : Int) + exponent) * 30103).fdiv 100000
  let (twoNum, twoDen) := powerOfTwo exponent
  let (tenNum, tenDen) := powerOfTen (guess + 1)
  if tenNum * twoDen ≤ significand * twoNum * tenDen then guess + 1 else guess

/--
The number's neighbour on the grid of multiples of `10 ^ step` that reads back as the number, the
nearer one of two. All that rounds to the number lies between the midpoints to the next numbers
below and above; these midpoints count when the significand is even.
-/
def onGrid? (significand : Nat) (exponent step : Int) : Option Nat :=
  let (twoNum, twoDen) := powerOfTwo (exponent - 2)
  let (tenNum, tenDen) := powerOfTen step
  let below := if significand = twoTo 52 && leastExponent < exponent then 1 else 2
  let unit := twoNum * tenDen
  let grid := tenNum * twoDen
  let value := 4 * significand * unit
  let low := (4 * significand - below) * unit
  let high := (4 * significand + 2) * unit
  let within (multiple : Nat) : Bool :=
    if significand % 2 = 0 then low ≤ multiple * grid && multiple * grid ≤ high
    else low < multiple * grid && multiple * grid < high
  let floor := value / grid
  let fitsFloor := 0 < floor && within floor
  let fitsNext := within (floor + 1)
  if fitsFloor && fitsNext then
    let down := value - floor * grid
    let up := (floor + 1) * grid - value
    some (if down < up then floor else if up < down then floor + 1
      else if floor % 2 = 0 then floor else floor + 1)
  else if fitsFloor then some floor
  else if fitsNext then some (floor + 1)
  else none

/-- The first grid with a hit, from `count` digits down to the precision of the format. -/
def firstGrid (significand : Nat) (exponent leading : Int) : Nat → Nat → Nat × Int
  | 0, _ => (0, 0)
  | tries + 1, count =>
    let step := leading - count
    match onGrid? significand exponent step with
    | some multiple => (multiple, step)
    | none => firstGrid significand exponent leading tries (count + 1)

/-- The shortest decimal `digits * 10 ^ step` of a positive finite number. -/
def shortest (significand : Nat) (exponent : Int) : Nat × Int :=
  firstGrid significand exponent (decimalExponent significand exponent) 18 0

def significantDigits (n : Nat) : Text :=
  match ((Text.ofNat n).reverse.dropWhile (· = .char '0')).reverse with
  | [] => ['0']
  | digits => digits

/-- Writes digits whose decimal point stands behind the first `point` of them. -/
def positional (digits : Text) (point : Int) : Text :=
  if point ≤ 0 then .char '0' :: .char '.' :: (List.replicate (-point).toNat (.char '0') ++ digits)
  else
    let whole := digits.take point.toNat
    let fraction := digits.drop point.toNat
    whole ++ List.replicate (point.toNat - digits.length) (.char '0') ++ .char '.' ::
      (if fraction.isEmpty then [CodePoint.char '0'] else fraction)

/-- Writes digits with one of them before the point, and the exponent with at least two. -/
def scientific (digits : Text) (exponent : Int) : Text :=
  digits.take 1 ++ (if digits.length ≤ 1 then [] else .char '.' :: digits.drop 1) ++
    CodePoint.char 'e' :: (if exponent < 0 then .char '-' else .char '+') ::
      Text.ofNatPadded 2 exponent.natAbs

def text : Binary64 → Text
  | nan => "nan"
  | infinite negative => if negative then "-inf" else "inf"
  | finite negative significand exponent =>
    let magnitude : Text :=
      if significand = 0 then "0.0"
      else
        let (digits, step) := shortest significand exponent
        let point : Int := ((Text.ofNat digits).length : Int) + step
        let digits := significantDigits digits
        if -4 < point && point ≤ 16 then positional digits point
        else scientific digits (point - 1)
    if negative then '-' :: magnitude else magnitude

end Clippings.Binary64
