/-!
# Binary floating point, exactly

A double is taken apart into a sign, a whole mantissa and a power of two, and a
ratio of whole numbers is rounded to the nearest double, a tie going to the
even mantissa.  All of it is whole-number arithmetic on the sixty-four bits.
-/

namespace NodePools.Decimal

/-- What a double stands for.  A finite one stands for `mantissa * 2 ^ exponent`
with its sign. -/
inductive Binary64 where
  | notANumber
  | infinite (negative : Bool)
  | finite (negative : Bool) (mantissa : Nat) (exponent : Int)
deriving Repr, DecidableEq

namespace Binary64

/-- Takes the bits of a double apart. -/
def ofBits (bits : Nat) : Binary64 :=
  let negative := bits / Nat.pow 2 63 % 2 == 1
  let biased : Nat := bits / Nat.pow 2 52 % Nat.pow 2 11
  let fraction : Nat := bits % Nat.pow 2 52
  if biased = 2047 then
    if fraction = 0 then .infinite negative else .notANumber
  else if biased = 0 then .finite negative fraction (-1074)
  else .finite negative (Nat.pow 2 52 + fraction) ((biased : Int) - 1075)

/-- Takes a double apart. -/
def ofFloat (x : Float) : Binary64 := ofBits x.toBits.toNat

/-- A quotient rounded to the nearest whole number, a tie to the even one. -/
def roundDiv (num den : Nat) : Nat :=
  let q := num / den
  let twice := 2 * (num % den)
  if twice < den then q
  else if den < twice then q + 1
  else if q % 2 = 0 then q else q + 1

/-- The exponent at which `num / den` has a mantissa of fifty-three bits, or the
least exponent there is. -/
def exponentOf (num den : Nat) : Int :=
  let guess : Int := (Nat.log2 num : Int) - (Nat.log2 den : Int)
  let below :=
    if 0 ≤ guess then num < den * Nat.pow 2 guess.toNat
    else num * Nat.pow 2 (-guess).toNat < den
  max ((if below then guess - 1 else guess) - 52) (-1074)

/-- The bits of the double nearest to `num / den`, the sign left out. -/
def ratioBits (num den : Nat) : Nat :=
  if num = 0 then 0
  else
    let e := exponentOf num den
    let q :=
      if 0 ≤ e then roundDiv num (den * Nat.pow 2 e.toNat)
      else roundDiv (num * Nat.pow 2 (-e).toNat) den
    let carried := q == Nat.pow 2 53
    let q := if carried then Nat.pow 2 52 else q
    let e := if carried then e + 1 else e
    if q < Nat.pow 2 52 then q
    else
      let biased := e + 1075
      if 2047 ≤ biased then 2047 * Nat.pow 2 52
      else biased.toNat * Nat.pow 2 52 + (q - Nat.pow 2 52)

/-- The double nearest to a ratio. -/
def ofRatio (negative : Bool) (num den : Nat) : Float :=
  Float.ofBits (UInt64.ofNat ((if negative then Nat.pow 2 63 else 0) + ratioBits num den))

/-- The double nearest to a whole number, unless that is beyond all finite
ones. -/
def ofInt? (n : Int) : Option Float :=
  if ratioBits n.natAbs 1 = 2047 * Nat.pow 2 52 then none else some (ofRatio (n < 0) n.natAbs 1)

/-- The double nearest to `digits * 10 ^ exponent`.  Exponents far outside the
range of a double are not raised to a power. -/
def ofDecimal (negative : Bool) (digits : Nat) (exponent : Int) : Float :=
  let size : Int := (Nat.toDigits 10 digits).length
  if digits = 0 || size + exponent < -400 then ofRatio negative 0 1
  else if 400 < size + exponent then
    Float.ofBits (UInt64.ofNat ((if negative then Nat.pow 2 63 else 0) + 2047 * Nat.pow 2 52))
  else if 0 ≤ exponent then ofRatio negative (digits * Nat.pow 10 exponent.toNat) 1
  else ofRatio negative digits (Nat.pow 10 (-exponent).toNat)

/-- The whole part of a finite double, rounded toward zero. -/
def truncate (negative : Bool) (mantissa : Nat) (exponent : Int) : Int :=
  let n :=
    if 0 ≤ exponent then mantissa * Nat.pow 2 exponent.toNat
    else mantissa / Nat.pow 2 (-exponent).toNat
  if negative then -(n : Int) else n

/-- The size of a finite double as a ratio. -/
def ratio (mantissa : Nat) (exponent : Int) : Nat × Nat :=
  if 0 ≤ exponent then (mantissa * Nat.pow 2 exponent.toNat, 1)
  else (mantissa, Nat.pow 2 (-exponent).toNat)

end Binary64
end NodePools.Decimal
