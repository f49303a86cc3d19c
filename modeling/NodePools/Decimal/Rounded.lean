import NodePools.Decimal.Layout

/-!
# Doubles with a given number of digits

A double is written with so many decimals, with so many digits and a power of
ten, or with so many digits in whichever of the two ways is shorter.  What is cut
off is rounded to the nearest, a tie to the even digit.
-/

namespace NodePools.Decimal

/-- Which digits are counted, and how they are laid out. -/
inductive RoundedStyle where
  /-- The digits behind the point. -/
  | fixed
  /-- The digits behind the first one, with a power of ten. -/
  | scientific
  /-- All digits; a power of ten for large and small numbers only. -/
  | general
deriving Repr, DecidableEq

/-- The digits before and behind the point of `num / den` with so many decimals. -/
def fixedDigits (places num den : Nat) : List Char × List Char :=
  let digits := Nat.toDigits 10 (Binary64.roundDiv (num * Nat.pow 10 places) den)
  let digits := List.replicate (places + 1 - digits.length) '0' ++ digits
  digits.splitAt (digits.length - places)

/-- The first `count` digits of `num / den` and the power of ten of the first one. -/
def leadingDigits (count num den : Nat) : List Char × Int :=
  if num = 0 then (List.replicate count '0', 0)
  else
    let power := leadingPower num den
    let shift := (count : Int) - 1 - power
    let n := Binary64.roundDiv (num * Nat.pow 10 shift.toNat) (den * Nat.pow 10 (-shift).toNat)
    if n = Nat.pow 10 count then (Nat.toDigits 10 (n / 10), power + 1)
    else (Nat.toDigits 10 n, power)

/-- Digits before and behind the point, which goes with the last decimal unless
it is to be kept. -/
def pointed (keepPoint : Bool) (whole fraction : List Char) : List Char :=
  if fraction.isEmpty && !keepPoint then whole else whole ++ '.' :: fraction

/-- Digits without the zeros at the end. -/
def withoutZeros (digits : List Char) : List Char :=
  (digits.reverse.dropWhile (· == '0')).reverse

/-- Digits with the point in place, if the first one stands for `10 ^ leading`. -/
def placed (digits : List Char) (leading : Int) : List Char × List Char :=
  if 0 ≤ leading then digits.splitAt (leading.toNat + 1)
  else (['0'], List.replicate (-leading - 1).toNat '0' ++ digits)

/-- The digits of `num / den`, without a sign.  If the point is to be kept, zeros at
the end stay too. -/
def ratioDigits (style : RoundedStyle) (precision : Nat) (keepPoint : Bool) (num den : Nat) :
    List Char :=
  match style with
  | .fixed =>
    let (whole, fraction) := fixedDigits precision num den
    pointed keepPoint whole fraction
  | .scientific =>
    let (digits, leading) := leadingDigits (precision + 1) num den
    pointed keepPoint (digits.take 1) (digits.drop 1) ++ (doubleLayout.power leading).toList
  | .general =>
    let count := max precision 1
    let (digits, leading) := leadingDigits count num den
    let kept := if keepPoint then id else withoutZeros
    if doubleLayout.leastPlain ≤ leading && leading < count then
      let (whole, fraction) := placed digits leading
      pointed keepPoint whole (kept fraction)
    else
      pointed keepPoint (digits.take 1) (kept (digits.drop 1)) ++
        (doubleLayout.power leading).toList

/-- Whether a double has a minus in front, and the text behind it. -/
def rounded (style : RoundedStyle) (precision : Nat) (keepPoint : Bool) (x : Float) :
    Bool × List Char :=
  match Binary64.ofFloat x with
  | .notANumber => (false, doubleLayout.notANumber.toList)
  | .infinite negative => (negative, doubleLayout.infinity.toList)
  | .finite negative mantissa exponent =>
    let (num, den) := Binary64.ratio mantissa exponent
    (negative, ratioDigits style precision keepPoint num den)

end NodePools.Decimal
