import NodePools.Text.Hex
import NodePools.Text.Search

/-!
# Texts in TOML

Basic texts stand between double quotes and have escapes, literal ones between
single quotes and have none.  Either may be tripled to span lines: then a line
end right after the opening is dropped, and up to two quotes may stand directly
before the closing.  Control characters other than the tab are refused.
-/

namespace NodePools.Toml

/-- Whether a character may not stand in a text or a comment. -/
def isControl (c : Char) : Bool := (c.toNat < 0x20 && c != '\t') || c.toNat == 0x7f

/-- Whether a character is a blank within a line. -/
def isBlank (c : Char) : Bool := c == ' ' || c == '\t'

/-- Whether a character is a blank or a line end. -/
def isSpace (c : Char) : Bool := isBlank c || c == '\n'

/-- The character that a one-letter escape stands for. -/
def escape? (c : Char) : Option Char :=
  if c = 'b' then some '\x08'
  else if c = 't' then some '\t'
  else if c = 'n' then some '\n'
  else if c = 'f' then some '\x0c'
  else if c = 'r' then some '\r'
  else if c = '"' then some '"'
  else if c = '\\' then some '\\'
  else none

/-- The character that hexadecimal digits stand for, surrogates excepted. -/
def hexChar? (digits : List Char) : Option Char := do
  let values ← digits.mapM Text.Hex.digit?
  let n := values.foldl (fun n d => n * 16 + d) 0
  if h : n.isValidChar then some (Char.ofNatAux n h) else none

/-- Where a backslash at a line end leaves the reader: nowhere near one, before
the line end, or after it, where all blanks are skipped. -/
inductive Folding where
  | no
  | beforeLineEnd
  | afterLineEnd
deriving Repr, DecidableEq

/-- Adds a character in front of what was read. -/
def prepend (c : Char) (r : List Char × List Char) : List Char × List Char := (c :: r.1, r.2)

/-- Reads a basic text whose opening has been read, and what follows its
closing. -/
def readBasic (multiline : Bool) : Folding → List Char → Option (List Char × List Char)
  | _, [] => none
  | folding, c :: rest =>
    if folding == .beforeLineEnd then
      if isBlank c then readBasic multiline .beforeLineEnd rest
      else if c == '\n' then readBasic multiline .afterLineEnd rest
      else none
    else if folding == .afterLineEnd && isSpace c then readBasic multiline .afterLineEnd rest
    else if c == '"' then
      if multiline then
        match rest with
        | '"' :: '"' :: rest => some ([], rest)
        | rest => (readBasic multiline .no rest).map (prepend '"')
      else some ([], rest)
    else if c == '\\' then
      match rest with
      | [] => none
      | 'u' :: a :: b :: d :: e :: rest =>
        match hexChar? [a, b, d, e] with
        | some x => (readBasic multiline .no rest).map (prepend x)
        | none => none
      | 'U' :: a :: b :: d :: e :: f :: g :: h :: i :: rest =>
        match hexChar? [a, b, d, e, f, g, h, i] with
        | some x => (readBasic multiline .no rest).map (prepend x)
        | none => none
      | x :: rest =>
        if multiline && isBlank x then readBasic multiline .beforeLineEnd rest
        else if multiline && x == '\n' then readBasic multiline .afterLineEnd rest
        else
          match escape? x with
          | some y => (readBasic multiline .no rest).map (prepend y)
          | none => none
    else if isControl c && !(multiline && c == '\n') then none
    else (readBasic multiline .no rest).map (prepend c)

/-- Reads a literal text whose opening has been read. -/
def readLiteral (closing : List Char) (cs : List Char) : Option (List Char × List Char) := do
  let (content, rest) ← Text.splitFirst? closing cs
  let multiline := closing.length != 1
  if content.any fun c => isControl c && !(multiline && c == '\n') then none
  else return (content, rest)

/-- Drops a line end right after the opening of a text that spans lines. -/
def dropLineEnd : List Char → List Char
  | '\n' :: rest => rest
  | cs => cs

/-- Adds up to two quotes that stand directly behind three closing ones. -/
def takeQuotes (quote : Char) (r : List Char × List Char) : List Char × List Char :=
  let extra := (r.2.takeWhile (· == quote)).take 2
  (r.1 ++ extra, r.2.drop extra.length)

/-- Reads the text at the start, quotes and all. -/
def readText : List Char → Option (List Char × List Char)
  | '"' :: '"' :: '"' :: rest =>
    (readBasic true .no (dropLineEnd rest)).map (takeQuotes '"')
  | '"' :: rest => readBasic false .no rest
  | '\'' :: '\'' :: '\'' :: rest =>
    (readLiteral ['\'', '\'', '\''] (dropLineEnd rest)).map (takeQuotes '\'')
  | '\'' :: rest => readLiteral ['\''] rest
  | _ => none

/-- Reads the text of a key, which never spans lines. -/
def readKeyText : List Char → Option (List Char × List Char)
  | '"' :: rest => readBasic false .no rest
  | '\'' :: rest => readLiteral ['\''] rest
  | _ => none

end NodePools.Toml
