import NodePools.Text.Printable

/-!
# Quoted text

A text is quoted with single quotes, or with double quotes when it holds a
single quote and no double one.  The backslash and the quote in use are
escaped, tabs and line ends have short escapes, and every other character that
is not printable is written by its code point in two, four or eight digits.
-/

namespace NodePools.Text

/-- A number in hexadecimal, filled with zeros to a least width. -/
def hexPadded (width n : Nat) : List Char :=
  let digits := Nat.toDigits 16 n
  List.replicate (width - digits.length) '0' ++ digits

/-- The quote that encloses a text. -/
def quoteMark (cs : List Char) : Char :=
  if cs.contains '\'' && !cs.contains '"' then '"' else '\''

/-- A character written by its code point. -/
def codeEscape (c : Char) : List Char :=
  if c.toNat ≤ 0xff then ['\\', 'x'] ++ hexPadded 2 c.toNat
  else if c.toNat ≤ 0xffff then ['\\', 'u'] ++ hexPadded 4 c.toNat
  else ['\\', 'U'] ++ hexPadded 8 c.toNat

/-- One character as it stands between the quotes `mark`. -/
def quoteChar (mark c : Char) : List Char :=
  if c == mark || c == '\\' then ['\\', c]
  else if c == '\t' then ['\\', 't']
  else if c == '\n' then ['\\', 'n']
  else if c == '\r' then ['\\', 'r']
  else if isPrintable c then [c]
  else codeEscape c

/-- A text in which the characters outside the first 128 code points are written
by their code points. -/
def asciiOnly (cs : List Char) : List Char :=
  cs.flatMap fun c => if c.toNat < 128 then [c] else codeEscape c

/-- A text between quotes. -/
def quoted (s : String) : String :=
  let cs := s.toList
  let mark := quoteMark cs
  String.ofList ([mark] ++ cs.flatMap (quoteChar mark) ++ [mark])

end NodePools.Text
