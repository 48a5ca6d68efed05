/-! Decimals and doubles: the double nearest to a decimal, and the shortest
decimal that reads back as a given double.

A finite double is a mantissa times a power of two, and the reals that round
to it form an interval. Among the decimals in that interval the text shows one
with the fewest digits, and of two such the one nearer to the number; at equal
distance it is the larger one. The text is positional for every size and has
neither an exponent nor a needless point. -/

namespace ClusterRouting.Decimal

def codes : Nat := 0x10000000000000

def signBit : Nat := 0x8000000000000000

def lastExponent : Nat := 0x7ff

/-! ## Reading -/

def roundQuotient (numerator denominator : Nat) : Nat :=
  let whole := numerator / denominator
  let twice := 2 * (numerator % denominator)
  if denominator < twice || (twice == denominator && whole % 2 == 1) then
    whole + 1
  else whole

/-- The code of the double nearest to a quotient. Codes of positive doubles
are consecutive, so a mantissa that is rounded up to the next power of two
needs no further case. -/
def nearestCode (numerator denominator : Nat) : Nat :=
  let estimate : Int := Int.ofNat numerator.log2 - Int.ofNat denominator.log2
  let scaled (exponent : Int) : Nat × Nat :=
    (numerator * Nat.pow 2 (-exponent).toNat,
      denominator * Nat.pow 2 exponent.toNat)
  let fits (exponent : Int) : Bool :=
    let (above, below) := scaled exponent
    codes * below ≤ above
  let exponent :=
    if fits (estimate - 52) then estimate - 52 else estimate - 53
  let exponent := max exponent (-1074)
  let (above, below) := scaled exponent
  (exponent + 1074).toNat * codes + roundQuotient above below

def nearest? (negative : Bool) (mantissa : Nat) (power : Int) :
    Option Float :=
  let code :=
    if mantissa == 0 || power < -100000 then 0
    else if 100000 < power then signBit
    else
      nearestCode (mantissa * Nat.pow 10 power.toNat)
        (Nat.pow 10 (-power).toNat)
  if lastExponent * codes ≤ code then none
  else
    some (Float.ofBits (.ofNat (if negative then signBit + code else code)))

/-! ## Writing -/

/-- A positive double with the interval of the reals that round to it, over
one common denominator. -/
structure Interval where
  low : Nat
  middle : Nat
  high : Nat
  denominator : Nat
  closed : Bool

def Interval.ofBinary (mantissa : Nat) (exponent : Int) (narrow : Bool) :
    Interval :=
  let scale := Nat.pow 2 (exponent - 2).toNat
  { low := (4 * mantissa - if narrow then 1 else 2) * scale
    middle := 4 * mantissa * scale
    high := (4 * mantissa + 2) * scale
    denominator := Nat.pow 2 (2 - exponent).toNat
    closed := mantissa % 2 == 0 }

def Interval.leading (interval : Interval) : Int :=
  if interval.denominator ≤ interval.middle then
    (Nat.toDigits 10 (interval.middle / interval.denominator)).length
  else
    let reached (count : Nat) : Bool :=
      interval.denominator ≤ interval.middle * Nat.pow 10 (count + 1)
    Int.negOfNat (((List.range 400).find? reached).getD 0)

def Interval.onGrid? (interval : Interval) (power : Int) : Option Nat :=
  let factor := Nat.pow 10 (-power).toNat
  let step := Nat.pow 10 power.toNat * interval.denominator
  let low := interval.low * factor
  let middle := interval.middle * factor
  let high := interval.high * factor
  let inside (point : Nat) : Bool :=
    if interval.closed then low ≤ point * step && point * step ≤ high
    else low < point * step && point * step < high
  let below := middle / step
  let above := below + 1
  if inside below &&
      (!inside above || middle - below * step < above * step - middle) then
    some below
  else if inside above then some above
  else none

/-- A shortest decimal `digits * 10 ^ power` in the interval. Seventeen digits
always suffice. -/
def Interval.shortest (interval : Interval) : Nat × Int :=
  let found := (List.range 17).findSome? fun count =>
    let power := interval.leading - (count + 1 : Nat)
    (interval.onGrid? power).map fun digits => (digits, power)
  found.getD (0, 0)

def positional (digits : Nat) (power : Int) : List Char :=
  let shown := Nat.toDigits 10 (digits * Nat.pow 10 power.toNat)
  let places := (-power).toNat
  let padded := List.replicate (places + 1 - shown.length) '0' ++ shown
  let whole := padded.take (padded.length - places)
  let behind := padded.drop (padded.length - places)
  let kept := (behind.reverse.dropWhile (· == '0')).reverse
  if kept.isEmpty then whole else whole ++ '.' :: kept

def render (number : Float) : String :=
  let bits := number.toBits.toNat
  let fraction := bits % codes
  let biased := bits % signBit / codes
  let sign := if bits < signBit then "" else "-"
  if biased == lastExponent then
    if fraction == 0 then sign ++ "inf" else "NaN"
  else if biased == 0 && fraction == 0 then sign ++ "0"
  else
    let interval :=
      if biased == 0 then Interval.ofBinary fraction (-1074) false
      else
        Interval.ofBinary (codes + fraction) (Int.ofNat biased - 1075)
          (fraction == 0 && 1 < biased)
    let (digits, power) := interval.shortest
    sign ++ String.ofList (positional digits power)

end ClusterRouting.Decimal
