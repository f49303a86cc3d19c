import NodePools.Json.Basic
import NodePools.Json.Quoted

/-!
# Reading JSON

Reads any JSON document, with blanks wherever JSON allows them.
-/

namespace NodePools.Json

/-- Whether a character may stand between the parts of a document. -/
def isSpace (c : Char) : Bool := c == ' ' || c == '\n' || c == '\r' || c == '\t'

/-- What follows the blanks at the start of a text. -/
def skipSpace (cs : List Char) : List Char := cs.dropWhile isSpace

/-- The digits at the start of a text, if there are any, and what follows. -/
def readDigits (cs : List Char) : Option (List Char × List Char) :=
  let digits := cs.takeWhile Char.isDigit
  if digits.isEmpty then none else some (digits, cs.dropWhile Char.isDigit)

/-- The value of digits. -/
def digitsValue (digits : List Char) : Nat :=
  digits.foldl (fun n c => n * 10 + (c.toNat - '0'.toNat)) 0

/-- The exponent at the start of a text, zero if there is none. -/
def readExponent (cs : List Char) : Option (Int × List Char) :=
  match cs with
  | c :: rest =>
    if c = 'e' ∨ c = 'E' then
      let (negative, rest) :=
        match rest with
        | '-' :: rest => (true, rest)
        | '+' :: rest => (false, rest)
        | _ => (false, rest)
      (readDigits rest).map fun (digits, rest) =>
        let n : Int := digitsValue digits
        (if negative then -n else n, rest)
    else some (0, cs)
  | [] => some (0, [])

/-- A number without sign at the start of a text. -/
def readUnsigned (cs : List Char) : Option (Nat × Int × List Char) := do
  let (whole, rest) ← readDigits cs
  if whole.head? = some '0' ∧ whole.length ≠ 1 then none
  else
    let (fraction, rest) ←
      match rest with
      | '.' :: rest => readDigits rest
      | _ => some ([], rest)
    let (exponent, rest) ← readExponent rest
    return (digitsValue (whole ++ fraction), exponent - fraction.length, rest)

/-- A number at the start of a text. -/
def readNumber (cs : List Char) : Option (Json × List Char) :=
  match cs with
  | '-' :: rest =>
    (readUnsigned rest).map fun (n, exponent, rest) => (.number (-(n : Int)) exponent, rest)
  | _ => (readUnsigned cs).map fun (n, exponent, rest) => (.number n exponent, rest)

mutual

/-- Reads the document at the start of a text and what follows it. -/
def readValue : Nat → List Char → Option (Json × List Char)
  | 0, _ => none
  | fuel + 1, cs =>
    match skipSpace cs with
    | 'n' :: 'u' :: 'l' :: 'l' :: rest => some (.null, rest)
    | 't' :: 'r' :: 'u' :: 'e' :: rest => some (.bool true, rest)
    | 'f' :: 'a' :: 'l' :: 's' :: 'e' :: rest => some (.bool false, rest)
    | '"' :: rest => (readText rest).map fun (s, rest) => (.text (String.ofList s), rest)
    | '[' :: rest =>
      match skipSpace rest with
      | ']' :: rest => some (.list [], rest)
      | rest => (readItems fuel rest).map fun (items, rest) => (.list items, rest)
    | '\x7b' :: rest =>
      match skipSpace rest with
      | '\x7d' :: rest => some (.table [], rest)
      | rest => (readFields fuel rest).map fun (fields, rest) => (.table fields, rest)
    | rest => readNumber rest

/-- Reads the items of a list up to its end. -/
def readItems : Nat → List Char → Option (List Json × List Char)
  | 0, _ => none
  | fuel + 1, cs =>
    match readValue fuel cs with
    | none => none
    | some (item, rest) =>
      match skipSpace rest with
      | ']' :: rest => some ([item], rest)
      | ',' :: rest => (readItems fuel rest).map fun (items, rest) => (item :: items, rest)
      | _ => none

/-- Reads the entries of a table up to its end. -/
def readFields : Nat → List Char → Option (List (String × Json) × List Char)
  | 0, _ => none
  | fuel + 1, cs =>
    match skipSpace cs with
    | '"' :: rest =>
      match readText rest with
      | none => none
      | some (key, rest) =>
        match skipSpace rest with
        | ':' :: rest =>
          match readValue fuel rest with
          | none => none
          | some (value, rest) =>
            let entry := (String.ofList key, value)
            match skipSpace rest with
            | '\x7d' :: rest => some ([entry], rest)
            | ',' :: rest => (readFields fuel rest).map fun (fields, rest) => (entry :: fields, rest)
            | _ => none
        | _ => none
    | _ => none

end

/-- The document that a text holds, with nothing but blanks around it.  Every
step of reading takes a character or ends a part, so twice the length of the
text is enough fuel. -/
def parse? (s : String) : Option Json :=
  let cs := s.toList
  match readValue (2 * cs.length + 2) cs with
  | some (j, rest) => if (skipSpace rest).isEmpty then some j else none
  | none => none

end NodePools.Json
