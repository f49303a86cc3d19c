import NodePools.Decimal.Layout

/-!
# Numbers as they are given

A number is whole and of any size, or a double.  Arithmetic keeps whole numbers
exact and turns to doubles as soon as one of the two is one; comparison is of
the exact values.
-/

namespace NodePools

/-- A whole number or a double. -/
inductive Number where
  | whole (n : Int)
  | real (x : Float)

namespace Number

/-- The nearest double.  A whole number beyond all doubles becomes infinite. -/
def toFloat : Number → Float
  | .whole n => Decimal.Binary64.ofRatio (n < 0) n.natAbs 1
  | .real x => x

/-- The nearest double, unless a whole number is beyond them all. -/
def toFloat? : Number → Option Float
  | .whole n => Decimal.Binary64.ofInt? n
  | .real x => some x

/-- A number as text: a whole one in digits, a double with its shortest digits. -/
def text : Number → String
  | .whole n => toString n
  | .real x => Decimal.text x

/-- A number as text without decimals, unless it is a whole number beyond all
doubles. -/
def wholeText? (n : Number) : Option String := n.toFloat?.map Decimal.wholeText

/-- The order of a whole number and a double, nothing if the double is not a
number. -/
def compareWhole (n : Int) (x : Float) : Option Ordering :=
  match Decimal.Binary64.ofFloat x with
  | .notANumber => none
  | .infinite negative => some (if negative then .gt else .lt)
  | .finite negative mantissa exponent =>
    let (num, den) := Decimal.Binary64.ratio mantissa exponent
    some (compare (n * den) (if negative then -(num : Int) else num))

/-- The order of two numbers, by exact value. -/
def compare? : Number → Number → Option Ordering
  | .whole a, .whole b => some (compare a b)
  | .real a, .real b =>
    if a < b then some .lt else if b < a then some .gt else if a == b then some .eq else none
  | .whole a, .real b => compareWhole a b
  | .real a, .whole b => (compareWhole b a).map Ordering.swap

/-- A sum. -/
def add : Number → Number → Number
  | .whole a, .whole b => .whole (a + b)
  | a, b => .real (a.toFloat + b.toFloat)

/-- A difference. -/
def sub : Number → Number → Number
  | .whole a, .whole b => .whole (a - b)
  | a, b => .real (a.toFloat - b.toFloat)

instance : Add Number := ⟨add⟩
instance : Sub Number := ⟨sub⟩
instance : LE Number := ⟨fun a b => compare? a b = some .lt ∨ compare? a b = some .eq⟩
instance : LT Number := ⟨fun a b => compare? a b = some .lt⟩
instance (a b : Number) : Decidable (a ≤ b) :=
  inferInstanceAs (Decidable (compare? a b = some .lt ∨ compare? a b = some .eq))
instance (a b : Number) : Decidable (a < b) :=
  inferInstanceAs (Decidable (compare? a b = some .lt))

/-- Whether two numbers have the same value. -/
def same (a b : Number) : Bool := compare? a b = some .eq

end Number
end NodePools
