import NodePools.Text.Hex

/-!
# Texts in JSON

A text is written in ASCII between double quotes.  The quote and the backslash
are escaped, five control characters have short escapes, and every character
outside the printable part of ASCII is written as one or two UTF-16 units in
four hexadecimal digits.  Reading accepts every escape that JSON has.
-/

namespace NodePools.Json

open NodePools.Text

/-- A UTF-16 unit as an escape. -/
def escapedUnit (n : Nat) : List Char :=
  ['\\', 'u', Hex.digit (n / 0x1000), Hex.digit (n / 0x100), Hex.digit (n / 0x10), Hex.digit n]

/-- One character as it stands between the quotes. -/
def quoteChar (c : Char) : List Char :=
  if c = '"' then ['\\', '"']
  else if c = '\\' then ['\\', '\\']
  else if c = '\n' then ['\\', 'n']
  else if c = '\r' then ['\\', 'r']
  else if c = '\t' then ['\\', 't']
  else if c = '\x0c' then ['\\', 'f']
  else if c = '\x08' then ['\\', 'b']
  else if 0x20 ≤ c.toNat ∧ c.toNat < 0x7f then [c]
  else if c.toNat < 0x10000 then escapedUnit c.toNat
  else
    escapedUnit (0xd800 + (c.toNat - 0x10000) / 0x400) ++
      escapedUnit (0xdc00 + (c.toNat - 0x10000) % 0x400)

/-- A text with its quotes. -/
def quoteText (cs : List Char) : List Char := '"' :: cs.flatMap quoteChar ++ ['"']

/-- The UTF-16 unit that four digits stand for. -/
def unit? (a b c d : Char) : Option Nat := do
  let w ← Hex.digit? a
  let x ← Hex.digit? b
  let y ← Hex.digit? c
  let z ← Hex.digit? d
  return w * 0x1000 + x * 0x100 + y * 0x10 + z

/-- The character that a short escape stands for. -/
def shortEscape? (c : Char) : Option Char :=
  if c = '"' ∨ c = '\\' ∨ c = '/' then some c
  else if c = 'n' then some '\n'
  else if c = 'r' then some '\r'
  else if c = 't' then some '\t'
  else if c = 'f' then some '\x0c'
  else if c = 'b' then some '\x08'
  else none

/-- The first of the two units of a character beyond the first plane. -/
def isHighUnit (n : Nat) : Bool := 0xd800 ≤ n && n < 0xdc00

/-- The second of the two units. -/
def isLowUnit (n : Nat) : Bool := 0xdc00 ≤ n && n < 0xe000

/-- Reads a text whose opening quote has been read, and what follows its closing
quote. -/
def readText : List Char → Option (List Char × List Char)
  | [] => none
  | '"' :: rest => some ([], rest)
  | '\\' :: 'u' :: a :: b :: c :: d :: rest =>
    match unit? a b c d with
    | none => none
    | some high =>
      if isHighUnit high then
        match rest with
        | '\\' :: 'u' :: e :: f :: g :: h :: after =>
          match unit? e f g h with
          | none => none
          | some low =>
            if isLowUnit low then
              (readText after).map fun (cs, rest) =>
                (Char.ofNat (0x10000 + (high - 0xd800) * 0x400 + (low - 0xdc00)) :: cs, rest)
            else none
        | _ => none
      else if isLowUnit high then none
      else (readText rest).map fun (cs, rest) => (Char.ofNat high :: cs, rest)
  | '\\' :: c :: rest =>
    match shortEscape? c with
    | none => none
    | some x => (readText rest).map fun (cs, rest) => (x :: cs, rest)
  | c :: rest =>
    if c = '\\' ∨ c.toNat < 0x20 then none
    else (readText rest).map fun (cs, rest) => (c :: cs, rest)

end NodePools.Json
