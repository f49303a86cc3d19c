/-!
# Dates and times

A moment is a date, a time of day, or both together, with or without a distance
from universal time.  Each has a plain text, as in a document, and a labelled
one that names its parts.
-/

namespace NodePools

/-- A day of the calendar. -/
structure Date where
  year : Nat
  month : Nat
  day : Nat
deriving Repr, DecidableEq

/-- A time of day to the millionth of a second. -/
structure Clock where
  hour : Nat
  minute : Nat
  second : Nat
  micro : Nat
deriving Repr, DecidableEq

/-- A date, a time of day, or both; `offset` is in minutes east of universal
time. -/
inductive Moment where
  | date (d : Date)
  | clock (c : Clock)
  | both (d : Date) (c : Clock) (offset : Option Int)
deriving Repr, DecidableEq

/-- A number with zeros in front up to a width. -/
def zeroPadded (width n : Nat) : String :=
  let digits := Nat.toDigits 10 n
  String.ofList (List.replicate (width - digits.length) '0' ++ digits)

/-- Whether a year has a twenty-ninth of February. -/
def isLeapYear (year : Nat) : Bool := year % 4 == 0 && (year % 100 != 0 || year % 400 == 0)

/-- The number of days of a month. -/
def daysInMonth (year month : Nat) : Nat :=
  if month = 2 then (if isLeapYear year then 29 else 28)
  else if month = 4 || month = 6 || month = 9 || month = 11 then 30
  else 31

/-- Whether a date is in the calendar. -/
def Date.valid (d : Date) : Bool :=
  1 ≤ d.year && 1 ≤ d.month && d.month ≤ 12 && 1 ≤ d.day && d.day ≤ daysInMonth d.year d.month

/-- A date with its parts joined by hyphens. -/
def Date.text (d : Date) : String :=
  zeroPadded 4 d.year ++ "-" ++ zeroPadded 2 d.month ++ "-" ++ zeroPadded 2 d.day

/-- A time of day; the fraction is left out when it is zero. -/
def Clock.text (c : Clock) : String :=
  zeroPadded 2 c.hour ++ ":" ++ zeroPadded 2 c.minute ++ ":" ++ zeroPadded 2 c.second ++
    (if c.micro = 0 then "" else "." ++ zeroPadded 6 c.micro)

/-- A distance from universal time with its sign. -/
def offsetText (minutes : Int) : String :=
  (if minutes < 0 then "-" else "+") ++ zeroPadded 2 (minutes.natAbs / 60) ++ ":" ++
    zeroPadded 2 (minutes.natAbs % 60)

namespace Moment

/-- A moment as in a document. -/
def text : Moment → String
  | .date d => d.text
  | .clock c => c.text
  | .both d c offset => d.text ++ " " ++ c.text ++ (offset.map offsetText).getD ""

/-- The parts of a time that a labelled moment lists: the second and its
fraction only as far as they are not zero. -/
def clockParts (c : Clock) : List String :=
  [toString c.hour, toString c.minute] ++
    (if c.second = 0 && c.micro = 0 then [] else [toString c.second]) ++
    (if c.micro = 0 then [] else [toString c.micro])

/-- The parts of a date. -/
def dateParts (d : Date) : List String := [toString d.year, toString d.month, toString d.day]

/-- A distance from universal time with its parts named, days and seconds. -/
def offsetLabel (minutes : Int) : String :=
  if minutes = 0 then "datetime.timezone.utc"
  else
    let seconds := minutes * 60
    let days := Int.fdiv seconds 86400
    let left := Int.fmod seconds 86400
    let parts := (if days = 0 then [] else [s!"days={days}"]) ++
      (if left = 0 then [] else [s!"seconds={left}"])
    "datetime.timezone(datetime.timedelta(" ++ String.intercalate ", " parts ++ "))"

/-- A moment with its parts named. -/
def label : Moment → String
  | .date d => "datetime.date(" ++ String.intercalate ", " (dateParts d) ++ ")"
  | .clock c => "datetime.time(" ++ String.intercalate ", " (clockParts c) ++ ")"
  | .both d c offset =>
    "datetime.datetime(" ++ String.intercalate ", " (dateParts d ++ clockParts c) ++
      (match offset with
        | some m => ", tzinfo=" ++ offsetLabel m
        | none => "") ++ ")"

end Moment
end NodePools
