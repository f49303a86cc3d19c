import NodePools.Decimal.Binary64

/-!
# The fewest digits that read back

Among the decimal numbers that round to a given double, the one with the fewest
digits is chosen, and of several with that many digits the nearest.  For each
number of digits only the two neighbours of the double on the decimal grid need
to be looked at: if any point of the grid rounds to the double, one of these
does.
-/

namespace NodePools.Decimal

/-- The reals that round to the double `mantissa * 2 ^ exponent`, as bounds over
a common denominator, the double itself between them. -/
structure RoundingInterval where
  low : Nat
  mid : Nat
  high : Nat
  den : Nat
  closed : Bool

/-- The interval of a positive double.  Below a power of two the doubles lie
closer together, so the lower bound is nearer there.  The ends round to the
even mantissa. -/
def RoundingInterval.of (mantissa : Nat) (exponent : Int) : RoundingInterval :=
  let close := mantissa == Nat.pow 2 52 && -1074 < exponent
  let scale := Nat.pow 2 exponent.toNat
  { low := (4 * mantissa - if close then 1 else 2) * scale
    mid := 4 * mantissa * scale
    high := (4 * mantissa + 2) * scale
    den := 4 * Nat.pow 2 (-exponent).toNat
    closed := mantissa % 2 == 0 }

/-- Whether `n / den'` with the interval's own denominator times `scale` lies in
the interval. -/
def RoundingInterval.holds (i : RoundingInterval) (n scale : Nat) : Bool :=
  if i.closed then i.low * scale ≤ n && n ≤ i.high * scale
  else i.low * scale < n && n < i.high * scale

/-- The power of ten of the first digit of a positive `num / den`: the greatest `p` with
`10 ^ p ≤ num / den`. -/
def leadingPower (num den : Nat) : Int :=
  if den ≤ num then ((Nat.toDigits 10 (num / den)).length : Int) - 1
  else -((Nat.toDigits 10 ((den + num - 1) / num - 1)).length : Int)

/-- The digits, as a whole number, and the power of ten of the last one. -/
structure Digits where
  value : Nat
  power : Int
deriving Repr, DecidableEq

/-- The better neighbour of the double on the grid of `10 ^ power`, if one of
the two rounds to it. -/
def onGrid? (i : RoundingInterval) (power : Int) : Option Digits :=
  let unit := i.den * Nat.pow 10 power.toNat
  let scale := Nat.pow 10 (-power).toNat
  let mid := i.mid * scale
  let below := mid / unit
  let fitsBelow := below ≠ 0 && i.holds (below * unit) scale
  let fitsAbove := i.holds ((below + 1) * unit) scale
  let toBelow := mid - below * unit
  let toAbove := (below + 1) * unit - mid
  if fitsBelow && (!fitsAbove || toBelow < toAbove || (toBelow == toAbove && below % 2 == 0)) then
    some ⟨below, power⟩
  else if fitsAbove then some ⟨below + 1, power⟩
  else none

/-- Tries ever finer grids, `count` of them. -/
def shortestFrom (i : RoundingInterval) (power : Int) : Nat → Digits
  | 0 => ⟨i.mid / i.den, 0⟩
  | count + 1 =>
    match onGrid? i power with
    | some d => d
    | none => shortestFrom i (power - 1) count

/-- The shortest digits of a positive double.  Seventeen always suffice.  The first
grid is that of the next higher power of ten, to which the double may round. -/
def shortest (mantissa : Nat) (exponent : Int) : Digits :=
  let i := RoundingInterval.of mantissa exponent
  shortestFrom i (leadingPower i.mid i.den + 1) 19

end NodePools.Decimal
