import RecordMapper.Number.Binary64

/-!
The shortest decimal text of a floating number: the fewest digits that read back as that number, and
of those the nearest to it. `Binary64.shortest` finds the digits; the two layouts write them down.
-/

set_option autoImplicit false

namespace RecordMapper.Binary64

structure Decimal where
  digits : Nat
  power : Int
  deriving DecidableEq, Repr

structure Ratio where
  num : Nat
  den : Nat

def Ratio.ofPower (n base : Nat) (power : Int) : Ratio :=
  if 0 ≤ power then ⟨n * base.pow power.toNat, 1⟩ else ⟨n, base.pow (-power).toNat⟩

/-- The magnitudes that round to one number: from `low` to `high` in units of `unit`, around
`middle`, with the ends included when the mantissa is even. -/
structure Interval where
  low : Nat
  middle : Nat
  high : Nat
  unit : Ratio
  closed : Bool

/-- The interval of a finite non-zero number. The gap below the first mantissa of a power of two is
half of the gap above it. -/
def interval (mantissa : Nat) (exponent : Int) : Interval where
  low := 4 * mantissa - (if mantissa = Nat.pow 2 52 then 1 else 2)
  middle := 4 * mantissa
  high := 4 * mantissa + 2
  unit := Ratio.ofPower 1 2 (exponent - 2)
  closed := mantissa % 2 == 0

/-- Whether the decimal `digits * 10 ^ power` lies in the interval. -/
def Interval.holds (i : Interval) (digits : Nat) (power : Int) : Bool :=
  let step := Ratio.ofPower digits 10 power
  let value := step.num * i.unit.den
  let low := i.low * i.unit.num * step.den
  let high := i.high * i.unit.num * step.den
  if i.closed then low ≤ value && value ≤ high else low < value && value < high

/-- The grid of multiples of `10 ^ power`: the neighbour of the number below it or at it, and
whether the one above is at least as near. -/
def Interval.neighbour (i : Interval) (power : Int) : Nat × Bool :=
  let step := Ratio.ofPower 1 10 power
  let num := i.middle * i.unit.num * step.den
  let den := i.unit.den * step.num
  (num / den, den ≤ 2 * (num % den))

/-- The number's point on one grid, when one of its two neighbours there reads back: the nearer of
the two where both do, a tie going up. -/
def Interval.point? (i : Interval) (power : Int) : Option Decimal :=
  let (below, upper) := i.neighbour power
  let holdsBelow := i.holds below power
  let holdsAbove := i.holds (below + 1) power
  if holdsAbove && (upper || !holdsBelow) then some ⟨below + 1, power⟩
  else if holdsBelow then some ⟨below, power⟩
  else none

/-- The coarsest grid at or below `top` that has a point of the number; `fuel` grids are tried. -/
def Interval.coarsest (i : Interval) (top : Int) : Nat → Decimal
  | 0 => ⟨0, 0⟩
  | fuel + 1 =>
    match i.point? top with
    | some decimal => decimal
    | none => i.coarsest (top - 1) fuel

/-- Drops trailing zeros of the digits; `fuel` bounds how many. -/
def Decimal.stripZeros (decimal : Decimal) : Nat → Decimal
  | 0 => decimal
  | fuel + 1 =>
    if decimal.digits ≠ 0 ∧ decimal.digits % 10 = 0 then
      Decimal.stripZeros ⟨decimal.digits / 10, decimal.power + 1⟩ fuel
    else decimal

/-- The decimal of a finite non-zero magnitude with the fewest digits that read back. The search
starts on a grid no finer than the first digit's: `301 / 1000` is close to the decimal logarithm of
two, and two grids more make up for the difference. Seventeen digits always suffice. -/
def shortest (mantissa : Nat) (exponent : Int) : Decimal :=
  let top := Int.fdiv (((mantissa.log2 : Int) + exponent) * 301) 1000 + 2
  ((interval mantissa exponent).coarsest top 24).stripZeros 3

def decimalDigits (n : Nat) : List Char := (Nat.repr n).toList

/-- A decimal written without an exponent, zeros filling the missing places. `whole` is written
after the digits of a number that has no fraction. -/
def Decimal.positional (decimal : Decimal) (whole : String) : String :=
  let digits := decimalDigits decimal.digits
  if 0 ≤ decimal.power then
    String.ofList (digits ++ List.replicate decimal.power.toNat '0') ++ whole
  else
    let places := (-decimal.power).toNat
    if places < digits.length then
      let whole := digits.length - places
      String.ofList (digits.take whole ++ '.' :: digits.drop whole)
    else String.ofList ('0' :: '.' :: List.replicate (places - digits.length) '0' ++ digits)

/-- A decimal written with one digit before the point and an exponent. -/
def Decimal.scientific (decimal : Decimal) : String :=
  let digits := decimalDigits decimal.digits
  let exponent := decimal.power + (digits.length : Int) - 1
  let fraction := match digits.drop 1 with
    | [] => []
    | rest => '.' :: rest
  String.ofList (digits.take 1 ++ fraction) ++ "e" ++ toString exponent

/-- How floating numbers are written: what follows a number that has no fraction, and for which
exponents of the first digit the point stays in place. -/
structure Layout where
  whole : String
  isPositional : Int → Bool

/-- Writes a floating number in a layout. A NaN has no sign. -/
def write (layout : Layout) (x : Binary64) : String :=
  let signed (negative : Bool) (text : String) := if negative then "-" ++ text else text
  match x.datum with
  | .nan => "NaN"
  | .infinite negative => signed negative "inf"
  | .finite negative mantissa exponent =>
    if mantissa = 0 then signed negative ("0" ++ layout.whole)
    else
      let decimal := shortest mantissa exponent
      let leading := decimal.power + ((decimalDigits decimal.digits).length : Int) - 1
      signed negative <|
        if layout.isPositional leading then decimal.positional layout.whole else decimal.scientific

/-- The layout of values: never an exponent, and nothing after a whole number. -/
def plainLayout : Layout := ⟨"", fun _ => true⟩

/-- The layout of diagnostics: whole numbers end in `.0`, and an exponent is used below `1e-4` and
from `1e16` on. -/
def markedLayout : Layout := ⟨".0", fun leading => -5 < leading && leading < 16⟩

def plainText (x : Binary64) : String := x.write plainLayout

def markedText (x : Binary64) : String := x.write markedLayout

end RecordMapper.Binary64
