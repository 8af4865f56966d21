namespace StyleTokens

structure Double where
  bits : UInt64
deriving DecidableEq, Repr, Inhabited

structure Decimal where
  digits : Nat
  exponent : Int
deriving DecidableEq, Repr

namespace Double

def ofFloat (value : Float) : Double := ⟨value.toBits⟩

def isNegative (value : Double) : Bool := Nat.pow 2 63 ≤ value.bits.toNat

def parts (value : Double) : Nat × Int :=
  let fraction := value.bits.toNat % Nat.pow 2 52
  let field : Nat := value.bits.toNat / Nat.pow 2 52 % Nat.pow 2 11
  if field = 0 then (fraction, -1074) else (Nat.pow 2 52 + fraction, (field : Int) - 1075)

-- The reals that round to a number, as fractions over one denominator. The ends belong to them if `closed`.
structure Interval where
  low : Nat
  value : Nat
  high : Nat
  denominator : Nat
  closed : Bool
deriving Repr

-- The ends lie halfway to the neighbours. Below a power of two the neighbour is nearer.
def interval (mantissa : Nat) (exponent : Int) : Interval :=
  let unit := Nat.pow 2 exponent.toNat
  let below := if mantissa = Nat.pow 2 52 && -1074 < exponent then unit else 2 * unit
  { low := 4 * mantissa * unit - below
    value := 4 * mantissa * unit
    high := 4 * mantissa * unit + 2 * unit
    denominator := 4 * Nat.pow 2 (-exponent).toNat
    closed := mantissa % 2 = 0 }

def Interval.contains (range : Interval) (decimal : Decimal) : Bool :=
  let scaled := decimal.digits * Nat.pow 10 decimal.exponent.toNat * range.denominator
  let grid := Nat.pow 10 (-decimal.exponent).toNat
  if range.closed then range.low * grid ≤ scaled && scaled ≤ range.high * grid
  else range.low * grid < scaled && scaled < range.high * grid

def leadingExponent (numerator denominator : Nat) : Int :=
  if denominator ≤ numerator then (Nat.toDigits 10 (numerator / denominator)).length - 1
  else -((Nat.toDigits 10 (denominator / numerator)).length : Int)

def Interval.nearest? (range : Interval) (digits : Nat) : Option Decimal :=
  let exponent := leadingExponent range.value range.denominator + 1 - digits
  let numerator := range.value * Nat.pow 10 (-exponent).toNat
  let denominator := range.denominator * Nat.pow 10 exponent.toNat
  let below : Decimal := ⟨numerator / denominator, exponent⟩
  let above : Decimal := ⟨numerator / denominator + 1, exponent⟩
  let rest := 2 * (numerator % denominator)
  let lower := rest < denominator || (rest = denominator && below.digits % 2 = 0)
  let (first, second) := if lower then (below, above) else (above, below)
  if range.contains first then some first
  else if range.contains second then some second
  else none

-- Of all decimals that read back as the number, one with the fewest digits, and of these the nearest. Seventeen digits
-- always suffice.
def shortest (value : Double) : Decimal :=
  let (mantissa, exponent) := value.parts
  if mantissa = 0 then ⟨0, 0⟩
  else ((List.range 17).findSome? fun count => (interval mantissa exponent).nearest? (count + 1)).getD ⟨0, 0⟩

def renderExponent (exponent : Int) : List Char :=
  let digits := (toString exponent.natAbs).toList
  'e' :: (if exponent < 0 then '-' else '+') :: List.replicate (2 - digits.length) '0' ++ digits

-- The digits stand around a point if the first of them has an exponent from -5 to 15. Otherwise an exponent follows
-- them.
def renderDecimal (decimal : Decimal) : List Char :=
  let digits := (toString decimal.digits).toList
  let kept := (digits.reverse.dropWhile (· == '0')).reverse
  let leading := decimal.exponent + digits.length - 1
  if decimal.digits = 0 then ['0', '.', '0']
  else if leading < -5 || 15 < leading then
    kept.take 1 ++ (if kept.length = 1 then [] else '.' :: kept.drop 1) ++ renderExponent leading
  else if leading < 0 then '0' :: '.' :: List.replicate (-leading - 1).toNat '0' ++ kept
  else
    let whole := leading.toNat + 1
    let padded := kept ++ List.replicate (whole - kept.length) '0'
    padded.take whole ++ '.' :: if padded.length = whole then ['0'] else padded.drop whole

def render (value : Double) : String :=
  String.ofList ((if value.isNegative then ['-'] else []) ++ renderDecimal value.shortest)

-- Scales a number by a power of ten, in one step where the power is a number itself. Nothing comes of a number that
-- gets too large.
def scale? (value : Float) (exponent : Int) : Option Float :=
  if exponent < -308 then
    if value == 0 then some value else scale? (value / 1e308) (exponent + 308)
  else if exponent < 0 then some (value / Float.ofScientific 1 false exponent.natAbs)
  else if 308 < exponent then if value == 0 then some value else none
  else
    let product := value * Float.ofScientific 1 false exponent.natAbs
    if product.isInf then none else some product
termination_by exponent.natAbs

end Double

end StyleTokens
