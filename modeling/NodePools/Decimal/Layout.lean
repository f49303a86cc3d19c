import NodePools.Decimal.Shortest

/-!
# Numbers as text

A double is written with its shortest digits.  The layout says from which size
on the power of ten is written out, how, and what stands for the values that
have no digits.  A double is also written without decimals, rounded to a whole
number with ties to the even one.
-/

namespace NodePools.Decimal

/-- The decisions of a number format. -/
structure Layout where
  /-- The least power of ten of the first digit that is written without an exponent. -/
  leastPlain : Int
  /-- The greatest such power. -/
  greatestPlain : Int
  /-- What follows the digits of a whole number. -/
  wholeEnding : String
  /-- The least number of digits of an exponent. -/
  exponentWidth : Nat
  notANumber : String
  infinity : String

/-- Doubles are written plainly from one ten-thousandth to below ten to the
sixteenth, whole ones end in a point and a zero, and exponents have a sign and
two digits at least. -/
def doubleLayout : Layout := ⟨-4, 15, ".0", 2, "nan", "inf"⟩

/-- Digits with the decimal point in place. -/
def Layout.plain (l : Layout) (digits : List Char) (power : Int) : String :=
  if 0 ≤ power then
    String.ofList (digits ++ List.replicate power.toNat '0') ++ l.wholeEnding
  else
    let places := (-power).toNat
    if places < digits.length then
      let cut := digits.length - places
      String.ofList (digits.take cut ++ '.' :: digits.drop cut)
    else
      String.ofList ('0' :: '.' :: List.replicate (places - digits.length) '0' ++ digits)

/-- A power of ten as it stands behind digits. -/
def Layout.power (l : Layout) (leading : Int) : String :=
  let size := Nat.toDigits 10 leading.natAbs
  let exponent := List.replicate (l.exponentWidth - size.length) '0' ++ size
  "e" ++ (if leading < 0 then "-" else "+") ++ String.ofList exponent

/-- Digits with the point after the first and the power of ten behind. -/
def Layout.scientific (l : Layout) (digits : List Char) (leading : Int) : String :=
  let mantissa :=
    match digits with
    | d :: e :: rest => String.ofList (d :: '.' :: e :: rest)
    | ds => String.ofList ds
  mantissa ++ l.power leading

/-- A number in a layout. -/
def Layout.write (l : Layout) : Binary64 → String
  | .notANumber => l.notANumber
  | .infinite negative => (if negative then "-" else "") ++ l.infinity
  | .finite negative 0 _ => (if negative then "-" else "") ++ "0" ++ l.wholeEnding
  | .finite negative mantissa exponent =>
    let d := shortest mantissa exponent
    let digits := Nat.toDigits 10 d.value
    let leading := d.power + digits.length - 1
    (if negative then "-" else "") ++
      if l.leastPlain ≤ leading && leading ≤ l.greatestPlain then l.plain digits d.power
      else l.scientific digits leading

/-- A double as text. -/
def text (x : Float) : String := doubleLayout.write (.ofFloat x)

/-- A double as text without decimals.  A negative one that rounds to zero keeps
its sign. -/
def wholeText (x : Float) : String :=
  match Binary64.ofFloat x with
  | .notANumber => doubleLayout.notANumber
  | .infinite negative => (if negative then "-" else "") ++ doubleLayout.infinity
  | .finite negative mantissa exponent =>
    let (num, den) := Binary64.ratio mantissa exponent
    (if negative then "-" else "") ++ toString (Binary64.roundDiv num den)

end NodePools.Decimal
