import NodePools.Decimal.Binary64
import NodePools.Text.Blank
import NodePools.Text.DecimalDigit

/-!
# Reading numbers

White space around a number is ignored, the information separators excepted.  A
sign may stand in front, single underscores may stand between digits, and the
digits may be of any script.  A whole number has digits only, in a base of at
most thirty-six; a double may have a point and an exponent, or be one of the
words for infinity and for what is not a number.
-/

namespace NodePools.Decimal

open NodePools.Text

/-- Digits with single underscores between them: their value in base ten, their
number, and what follows.  `value` and `count` are of the digits before. -/
def digitsFrom (value count : Nat) : List Char → Nat × Nat × List Char
  | '_' :: c :: rest =>
    match decimalDigit? c with
    | some d => if count = 0 then (value, count, '_' :: c :: rest)
                else digitsFrom (value * 10 + d) (count + 1) rest
    | none => (value, count, '_' :: c :: rest)
  | c :: rest =>
    match decimalDigit? c with
    | some d => digitsFrom (value * 10 + d) (count + 1) rest
    | none => (value, count, c :: rest)
  | [] => (value, count, [])

/-- A sign in front, and what follows it. -/
def signed : List Char → Bool × List Char
  | '-' :: rest => (true, rest)
  | '+' :: rest => (false, rest)
  | cs => (false, cs)

/-- Whether a character is white space that may stand around a number. -/
def isMargin (c : Char) : Bool := isBlank c && !('\x1c' ≤ c && c ≤ '\x1f')

/-- The most digits a whole number may be written with. -/
def maxDigits : Nat := 4300

/-- The least number with more digits than that. -/
def tooLong : Nat := Nat.pow 10 maxDigits

/-- Whether a whole number has few enough digits to be written. -/
def canWrite (n : Int) : Bool := n.natAbs < tooLong

/-- The whole number a text stands for. -/
def readInt? (s : String) : Option Int :=
  let (negative, cs) := signed (trimWhile isMargin s.toList)
  match digitsFrom 0 0 cs with
  | (value, count, []) =>
    if count = 0 || maxDigits < count then none
    else some (if negative then -(value : Int) else value)
  | _ => none

/-- The value of a digit or a letter as a digit. -/
def digitValue? (c : Char) : Option Nat :=
  match decimalDigit? c with
  | some d => some d
  | none =>
    if 'a' ≤ c ∧ c ≤ 'z' then some (c.toNat - 'a'.toNat + 10)
    else if 'A' ≤ c ∧ c ≤ 'Z' then some (c.toNat - 'A'.toNat + 10)
    else none

/-- The value of a digit below a base. -/
def digitIn? (base : Nat) (c : Char) : Option Nat := (digitValue? c).filter (· < base)

/-- The value of the digits that make up a text, single underscores between
them. -/
def valueIn? (base : Nat) (acc : Nat) : List Char → Option Nat
  | [] => some acc
  | '_' :: c :: rest => (digitIn? base c).bind fun d => valueIn? base (acc * base + d) rest
  | c :: rest => (digitIn? base c).bind fun d => valueIn? base (acc * base + d) rest

/-- The base that a mark behind a zero stands for. -/
def markedBase? (mark : Char) : Option Nat :=
  if mark = 'x' || mark = 'X' then some 16
  else if mark = 'o' || mark = 'O' then some 8
  else if mark = 'b' || mark = 'B' then some 2
  else none

/-- Takes the mark of a base off the digits, and the base that they are read in:
base zero stands for the one that the mark says, and ten without a mark.  Only
zeros may follow a zero then. -/
def unmarked? (base : Nat) (cs : List Char) : Option (Nat × List Char) :=
  let plain : Option (Nat × List Char) :=
    if base ≠ 0 then some (base, cs)
    else if cs.head? = some '0' && cs.any (fun c => c != '0' && c != '_') then none
    else some (10, cs)
  match cs with
  | '0' :: mark :: rest =>
    match markedBase? mark with
    | some b =>
      if base = 0 || base = b then
        some (b, match rest with
          | '_' :: rest => rest
          | rest => rest)
      else plain
    | none => plain
  | _ => plain

/-- The whole number a text stands for in a base. -/
def readIntIn? (base : Nat) (s : String) : Option Int :=
  if base = 10 then readInt? s
  else if base = 1 || 36 < base then none
  else
    let (negative, cs) := signed (trimWhile isMargin s.toList)
    (unmarked? base cs).bind fun (base, digits) =>
      match digits with
      | [] | '_' :: _ => none
      | digits => (valueIn? base 0 digits).map fun n => if negative then -(n : Int) else n

/-- The exponent after a mantissa: nothing, or a mark, a sign and digits that
end the text. -/
def exponent? : List Char → Option Int
  | [] => some 0
  | c :: rest =>
    if c = 'e' || c = 'E' then
      let (negative, cs) := signed rest
      match digitsFrom 0 0 cs with
      | (value, count, []) =>
        if count = 0 then none else some (if negative then -(value : Int) else value)
      | _ => none
    else none

/-- The double that a decimal number without sign stands for. -/
def readUnsigned? (negative : Bool) (cs : List Char) : Option Float :=
  let (whole, wholeCount, rest) := digitsFrom 0 0 cs
  match rest with
  | '.' :: rest =>
    let (all, fractionCount, rest) :=
      match rest with
      | '_' :: _ => (whole, 0, rest)
      | _ =>
        let (fraction, count, rest) := digitsFrom 0 0 rest
        (whole * Nat.pow 10 count + fraction, count, rest)
    if wholeCount = 0 && fractionCount = 0 then none
    else (exponent? rest).map fun e => Binary64.ofDecimal negative all (e - fractionCount)
  | rest =>
    if wholeCount = 0 then none
    else (exponent? rest).map fun e => Binary64.ofDecimal negative whole e

/-- The double with a given sign and the bits of infinity. -/
def infinity (negative : Bool) : Float :=
  Float.ofBits (UInt64.ofNat ((if negative then Nat.pow 2 63 else 0) + 2047 * Nat.pow 2 52))

/-- The double that is not a number. -/
def notANumber : Float := Float.ofBits (UInt64.ofNat (2047 * Nat.pow 2 52 + Nat.pow 2 51))

/-- The double a text stands for. -/
def readFloat? (s : String) : Option Float :=
  let (negative, cs) := signed (trimWhile isMargin s.toList)
  let word := String.ofList (cs.map Char.toLower)
  if word = "inf" || word = "infinity" then some (infinity negative)
  else if word = "nan" then some notANumber
  else readUnsigned? negative cs

end NodePools.Decimal
