/-!
# Lines

Two ways to see lines in a text.  Files are read with every line end turned
into a line feed.  Lines of a text are cut at every character that ends a line
in Unicode, and the pair of carriage return and line feed is one end.
-/

namespace NodePools.Text

/-- Turns every carriage return, with a line feed after it or without, into a
line feed. -/
def unifyLineEnds : List Char → List Char
  | '\r' :: '\n' :: rest => '\n' :: unifyLineEnds rest
  | '\r' :: rest => '\n' :: unifyLineEnds rest
  | c :: rest => c :: unifyLineEnds rest
  | [] => []

/-- Whether a character ends a line. -/
def endsLine (c : Char) : Bool :=
  let n := c.toNat
  (0xa ≤ n && n ≤ 0xd) || (0x1c ≤ n && n ≤ 0x1e) || n == 0x85 || n == 0x2028 || n == 0x2029

/-- Cuts a text into lines without their ends; `line` holds the reversed start
of the current line.  An end at the very end of the text starts no new line. -/
def splitLinesFrom (line : List Char) : List Char → List (List Char)
  | [] => if line.isEmpty then [] else [line.reverse]
  | '\r' :: '\n' :: rest => line.reverse :: splitLinesFrom [] rest
  | c :: rest =>
    if endsLine c then line.reverse :: splitLinesFrom [] rest
    else splitLinesFrom (c :: line) rest

/-- The lines of a text. -/
def splitLines (s : String) : List String :=
  (splitLinesFrom [] s.toList).map String.ofList

/-- How many line feeds a text holds. -/
def countNewlines (cs : List Char) : Nat := cs.count '\n'

end NodePools.Text
