import NodePools.Datum
import NodePools.Toml.Text

/-!
# Numbers, dates and times in TOML

Each reader takes the longest piece at the start of a text that has its form,
and what follows.  A piece that looks like a date but names no day of the
calendar is refused outright, and so is a whole number with too many digits.
-/

namespace NodePools.Toml

/-- Why a document is refused: it is not TOML, or it holds a whole number too
long to be read. -/
inductive Refusal where
  | malformed
  | oversized
deriving Repr, DecidableEq

/-- Refuses the document where a piece cannot be read. -/
def demand {α : Type} : Option α → Except Refusal α
  | some x => .ok x
  | none => .error .malformed

/-- The digits of a class at the start of a text, with single underscores
between them. -/
def digitRun (isDigit : Char → Bool) : List Char → List Char × List Char
  | '_' :: c :: rest =>
    if isDigit c then
      let (digits, rest) := digitRun isDigit rest
      (c :: digits, rest)
    else ([], '_' :: c :: rest)
  | c :: rest =>
    if isDigit c then
      let (digits, rest) := digitRun isDigit rest
      (c :: digits, rest)
    else ([], c :: rest)
  | [] => ([], [])

/-- A run that starts with a digit. -/
def digits? (isDigit : Char → Bool) : List Char → Option (List Char × List Char)
  | c :: rest => if isDigit c then some (digitRun isDigit (c :: rest)) else none
  | [] => none

/-- The value of digits in a base. -/
def valueIn (base : Nat) (digits : List Char) : Nat :=
  digits.foldl (fun n c => n * base + (Text.Hex.digit? c).getD 0) 0

/-- A whole number with a base mark. -/
def based? : List Char → Option (Nat × List Char)
  | '0' :: mark :: rest =>
    let read (base : Nat) (isDigit : Char → Bool) :=
      (digits? isDigit rest).map fun (ds, rest) => (valueIn base ds, rest)
    if mark = 'x' then read 16 fun c => (Text.Hex.digit? c).isSome
    else if mark = 'b' then read 2 fun c => c == '0' || c == '1'
    else if mark = 'o' then read 8 fun c => '0' ≤ c && c ≤ '7'
    else none
  | _ => none

/-- The decimal digits before a point: a lone zero, or digits that do not start
with one. -/
def wholePart? : List Char → Option (List Char × List Char)
  | '0' :: rest => some (['0'], rest)
  | cs => digits? Char.isDigit cs

/-- The decimals after a point, if there are any. -/
def fractionPart (cs : List Char) : Option (List Char) × List Char :=
  match cs with
  | '.' :: rest =>
    match digits? Char.isDigit rest with
    | some (ds, rest) => (some ds, rest)
    | none => (none, cs)
  | _ => (none, cs)

/-- The exponent after a mark, if there is one. -/
def exponentPart (cs : List Char) : Option Int × List Char :=
  match cs with
  | c :: rest =>
    if c = 'e' || c = 'E' then
      let (negative, after) := Decimal.signed rest
      match digits? Char.isDigit after with
      | some (ds, rest) =>
        let n : Int := valueIn 10 ds
        (some (if negative then -n else n), rest)
      | none => (none, cs)
    else (none, cs)
  | [] => (none, [])

/-- A decimal number: a double if it has decimals or an exponent. -/
def decimal? (cs : List Char) : Option (Except Refusal Datum × List Char) :=
  let (negative, cs) := Decimal.signed cs
  (wholePart? cs).map fun (whole, rest) =>
    let (fraction, rest) := fractionPart rest
    let (exponent, rest) := exponentPart rest
    match fraction, exponent with
    | none, none =>
      if Decimal.maxDigits < whole.length then (.error .oversized, rest)
      else
        let n : Int := valueIn 10 whole
        (.ok (.whole (if negative then -n else n)), rest)
    | _, _ =>
      let decimals := fraction.getD []
      let x := Decimal.Binary64.ofDecimal negative (valueIn 10 (whole ++ decimals))
        (exponent.getD 0 - decimals.length)
      (.ok (.real x), rest)

/-- A number of a fixed width between two bounds. -/
def bounded? (width low high : Nat) (cs : List Char) : Option (Nat × List Char) :=
  let ds := cs.take width
  let n := valueIn 10 ds
  if ds.length = width && ds.all Char.isDigit && low ≤ n && n ≤ high then some (n, cs.drop width)
  else none

/-- The rest after a given character. -/
def after? (c : Char) : List Char → Option (List Char)
  | x :: rest => if x = c then some rest else none
  | [] => none

/-- The fraction of a second, cut to six digits. -/
def microPart (cs : List Char) : Nat × List Char :=
  match cs with
  | '.' :: rest =>
    let ds := rest.takeWhile Char.isDigit
    if ds.isEmpty then (0, cs)
    else
      let six := ds.take 6
      (valueIn 10 (six ++ List.replicate (6 - six.length) '0'), rest.drop ds.length)
  | _ => (0, cs)

/-- A time of day. -/
def clock? (cs : List Char) : Option (Clock × List Char) := do
  let (hour, cs) ← bounded? 2 0 23 cs
  let cs ← after? ':' cs
  let (minute, cs) ← bounded? 2 0 59 cs
  let cs ← after? ':' cs
  let (second, cs) ← bounded? 2 0 59 cs
  let (micro, cs) := microPart cs
  return (⟨hour, minute, second, micro⟩, cs)

/-- The distance from universal time behind a time of day, if it is given. -/
def offsetPart (cs : List Char) : Option Int × List Char :=
  match cs with
  | c :: rest =>
    if c = 'Z' || c = 'z' then (some 0, rest)
    else if c = '+' || c = '-' then
      let read : Option (Int × List Char) := do
        let (hours, rest) ← bounded? 2 0 23 rest
        let rest ← after? ':' rest
        let (minutes, rest) ← bounded? 2 0 59 rest
        let n : Int := hours * 60 + minutes
        return (if c = '-' then -n else n, rest)
      match read with
      | some (n, rest) => (some n, rest)
      | none => (none, cs)
    else (none, cs)
  | [] => (none, [])

/-- A day as digits, in the calendar or not. -/
def day? (cs : List Char) : Option (Date × List Char) := do
  let (year, cs) ← bounded? 4 0 9999 cs
  let cs ← after? '-' cs
  let (month, cs) ← bounded? 2 1 12 cs
  let cs ← after? '-' cs
  let (day, cs) ← bounded? 2 1 31 cs
  return (⟨year, month, day⟩, cs)

/-- A date, with a time of day if one follows. -/
def moment? (cs : List Char) : Option (Except Refusal Datum × List Char) :=
  (day? cs).map fun (date, rest) =>
    let timed : Option (Clock × List Char) :=
      match rest with
      | c :: after => if c = 'T' || c = 't' || c = ' ' then clock? after else none
      | [] => none
    let (moment, rest) :=
      match timed with
      | some (clock, rest) =>
        let (offset, rest) := offsetPart rest
        (Moment.both date clock offset, rest)
      | none => (Moment.date date, rest)
    (if date.valid then .ok (.moment moment) else .error .malformed, rest)

/-- The words for the values without digits. -/
def special? (cs : List Char) : Option (Datum × List Char) :=
  let (negative, rest) := Decimal.signed cs
  match rest with
  | 'i' :: 'n' :: 'f' :: rest => some (.real (Decimal.infinity negative), rest)
  | 'n' :: 'a' :: 'n' :: rest => some (.real Decimal.notANumber, rest)
  | _ => none

/-- Reads the scalar that is no text at the start of a text. -/
def readScalar (cs : List Char) : Except Refusal (Datum × List Char) :=
  match cs with
  | 't' :: 'r' :: 'u' :: 'e' :: rest => .ok (.bool true, rest)
  | 'f' :: 'a' :: 'l' :: 's' :: 'e' :: rest => .ok (.bool false, rest)
  | _ =>
    match moment? cs with
    | some (moment, rest) => do return (← moment, rest)
    | none =>
      match clock? cs with
      | some (clock, rest) => .ok (.moment (.clock clock), rest)
      | none =>
        match based? cs with
        | some (n, rest) => .ok (.whole n, rest)
        | none =>
          match decimal? cs with
          | some (number, rest) => do return (← number, rest)
          | none => demand (special? cs)

end NodePools.Toml
