namespace RotaryScan.Decimal

structure Dyadic where
  mantissa : Nat
  exponent : Int
  deriving DecidableEq, Repr

inductive Magnitude
  | nan
  | infinite
  | finite (value : Dyadic)
  deriving DecidableEq, Repr

def isNegative (x : Float) : Bool := x.toBits >>> 63 == 1

def magnitudeOfBits (bits : Nat) : Magnitude :=
  let fraction : Nat := bits % (1 <<< 52)
  let exponent : Nat := (bits >>> 52) % (1 <<< 11)
  if exponent = 2047 then
    if fraction = 0 then .infinite else .nan
  else if exponent = 0 then .finite ⟨fraction, -1074⟩
  else .finite ⟨(1 <<< 52) + fraction, exponent - 1075⟩

def magnitude (x : Float) : Magnitude := magnitudeOfBits x.toBits.toNat

structure Numeral where
  digits : Nat
  power : Int
  deriving DecidableEq, Repr

/-- The reals that round to a double, as multiples of a quarter of its last place. -/
structure Interval where
  low : Nat
  middle : Nat
  high : Nat
  closed : Bool
  unit : Int
  deriving DecidableEq, Repr

/-- The ends lie halfway to the neighbours and count when the mantissa is even; below a power of
two the neighbour is only half as far away. -/
def Dyadic.interval (d : Dyadic) : Interval where
  low := 4 * d.mantissa - if d.mantissa = 1 <<< 52 then 1 else 2
  middle := 4 * d.mantissa
  high := 4 * d.mantissa + 2
  closed := d.mantissa % 2 == 0
  unit := d.exponent - 2

namespace Interval

-- A unit of the interval is `scale / grain` times `10 ^ power`.
def scale (i : Interval) (power : Int) : Nat :=
  Nat.pow 2 i.unit.toNat * Nat.pow 10 (-power).toNat

def grain (i : Interval) (power : Int) : Nat :=
  Nat.pow 2 (-i.unit).toNat * Nat.pow 10 power.toNat

def before (i : Interval) (a b : Nat) : Bool := if i.closed then a ≤ b else a < b

/-- The multiple of `10 ^ power` in the interval that lies nearest to its middle, if there is one.
Of two equally near the larger is taken. -/
def nearest? (i : Interval) (power : Int) : Option Numeral :=
  let s := i.scale power
  let g := i.grain power
  let below := i.middle * s / g
  let above := below + 1
  match i.before (i.low * s) (below * g), i.before (above * g) (i.high * s) with
  | true, true => some ⟨if 2 * i.middle * s < (below + above) * g then below else above, power⟩
  | true, false => some ⟨below, power⟩
  | false, true => some ⟨above, power⟩
  | false, false => none

end Interval

def Dyadic.topPower (d : Dyadic) : Int :=
  -- 0.30103 is a little more than the decimal logarithm of 2.
  ((d.mantissa.log2 : Int) + d.exponent + 1) * 30103 / 100000 + 1

/-- The numeral with the fewest digits that rounds to the number, and of those the nearest:
the coarsest decimal grid with a point in the interval. Twenty grids reach the seventeenth digit,
which always suffices. -/
def Dyadic.shortest (d : Dyadic) : Numeral :=
  let interval := d.interval
  let top := d.topPower
  ((List.range 24).findSome? fun step : Nat => interval.nearest? (top - step)).getD ⟨0, 0⟩

/-- All digits of a numeral with a point where needed, and never an exponent. -/
def Numeral.positional (n : Numeral) : List Char :=
  let digits := Nat.toDigits 10 n.digits
  let places := (-n.power).toNat
  if places = 0 then digits ++ List.replicate n.power.toNat '0'
  else if places < digits.length then
    digits.take (digits.length - places) ++ '.' :: digits.drop (digits.length - places)
  else '0' :: '.' :: (List.replicate (places - digits.length) '0' ++ digits)

def Dyadic.digits (d : Dyadic) : List Char :=
  if d.mantissa = 0 then ['0'] else d.shortest.positional

def signed (negative : Bool) (digits : List Char) : List Char :=
  if negative then '-' :: digits else digits

def chars (x : Float) : List Char :=
  match magnitude x with
  | .nan => ['N', 'a', 'N']
  | .infinite => signed (isNegative x) ['i', 'n', 'f']
  | .finite d => signed (isNegative x) d.digits

def text (x : Float) : String := String.ofList (chars x)

end RotaryScan.Decimal
