import NodePools.Decimal.Reader
import NodePools.Fault
import NodePools.Text.Hex
import NodePools.Text.Identifier
import NodePools.Text.Lines
import NodePools.Text.Search

/-!
# Tokens of a template

A template is text with tags.  A tag prints an expression, holds a statement,
is a comment, or starts a raw section that is taken over up to its end.  A minus
next to a tag's mark drops the white space on that side.  Inside a tag the text
is cut into names, numbers, quoted texts and operators; the closing mark counts
only where all brackets are closed.

A piece that is no token ends the list with the token `broken`, so that a fault
behind an earlier one does not hide it.  Some numbers have the form of one but
cannot be had: a whole number with too many digits, and a double whose digits are
not all ASCII.
-/

namespace NodePools.Template

open NodePools.Text

/-- What a token is. -/
inductive Lexeme where
  /-- Text outside of tags. -/
  | data (s : String)
  | outputBegin
  | outputEnd
  | blockBegin
  | blockEnd
  | name (s : String)
  | text (s : String)
  | whole (n : Nat)
  | real (x : Float)
  | operator (s : String)
  /-- A place where no token can be read, for the source is malformed or a number
  cannot be had. -/
  | broken (why : Option Fault)

/-- A token and the line on which it starts. -/
structure Token where
  line : Nat
  lexeme : Lexeme

namespace Token

/-- What kind of tag begins at a place. -/
inductive Tag where
  | output
  | block
  | comment
  /-- The whole tag that starts a raw section, over so many line ends. -/
  | raw (lines : Nat)
deriving DecidableEq

/-- A mark next to a tag: a minus drops white space, a plus does nothing. -/
def strippingMark : List Char → Bool × List Char
  | '-' :: rest => (true, rest)
  | '+' :: rest => (false, rest)
  | cs => (false, cs)

/-- What follows the white space at the start of a text. -/
def skipBlank (cs : List Char) : List Char := cs.dropWhile isBlank

/-- The line ends in the white space at the start of a text. -/
def blankLines (cs : List Char) : Nat := countNewlines (cs.takeWhile isBlank)

/-- What follows the given end of a tag, with the white space behind it dropped
if a minus stands in front, and the line ends dropped with it.  The end of a raw
tag and of an output tag take no plus. -/
def afterEnd? (takesPlus : Bool) (closing : List Char) (cs : List Char) :
    Option (Nat × List Char) :=
  match cs with
  | '-' :: rest => (afterStart? closing rest).map fun rest => (blankLines rest, skipBlank rest)
  | '+' :: rest => if takesPlus then (afterStart? closing rest).map ((0, ·)) else none
  | _ => (afterStart? closing cs).map ((0, ·))

/-- The end of a block tag. -/
def blockClosing : List Char := ['%', '\x7d']

/-- The end of an output tag. -/
def outputClosing : List Char := ['\x7d', '\x7d']

/-- The end of a comment. -/
def commentClosing : List Char := ['#', '\x7d']

/-- What follows the name and the end of a tag, and the line ends before it. -/
def afterName? (name : List Char) (takesPlus : Bool) (cs : List Char) :
    Option (Nat × List Char) := do
  let behind ← afterStart? name (skipBlank cs)
  let (lines, rest) ← afterEnd? takesPlus blockClosing (skipBlank behind)
  return (blankLines cs + blankLines behind + lines, rest)

/-- What follows a tag that starts a raw section, behind its opening mark, and the
line ends before it. -/
def afterRaw? (cs : List Char) : Option (Nat × List Char) :=
  afterName? ['r', 'a', 'w'] false (strippingMark cs).2

/-- What follows a tag that ends a raw section, the line ends before it, and
whether the white space in front of the tag is dropped. -/
def afterRawEnd? (cs : List Char) : Option (Bool × Nat × List Char) := do
  let (strip, rest) := strippingMark (← afterStart? ['\x7b', '%'] cs)
  return (strip, ← afterName? ['e', 'n', 'd', 'r', 'a', 'w'] true rest)

/-- The tag at the start of a text: its kind, whether white space in front of it
is dropped, and what follows the opening mark, or the whole tag of a raw
section. -/
def tagAt? : List Char → Option (Tag × Bool × List Char)
  | '\x7b' :: '\x7b' :: rest =>
    let (strip, rest) := strippingMark rest
    some (.output, strip, rest)
  | '\x7b' :: '#' :: rest =>
    let (strip, rest) := strippingMark rest
    some (.comment, strip, rest)
  | '\x7b' :: '%' :: rest =>
    let (strip, after) := strippingMark rest
    match afterRaw? rest with
    | some (lines, content) => some (.raw lines, strip, content)
    | none => some (.block, strip, after)
  | _ => none

/-- The text before the first place that a reader accepts, and what the reader
gives there. -/
def splitAtFirst? {α : Type} (reader : List Char → Option α) :
    List Char → Option (List Char × α)
  | [] => (reader []).map fun r => ([], r)
  | c :: cs =>
    match reader (c :: cs) with
    | some r => some ([], r)
    | none => (splitAtFirst? reader cs).map fun (before, r) => (c :: before, r)

/-- What follows the end of a comment, and the line ends before it. -/
def afterComment? (cs : List Char) : Option (Nat × List Char) := afterEnd? true commentClosing cs

/-- Digits of any script with single underscores between them, as their values. -/
def digitRun : List Char → List Nat × List Char
  | '_' :: c :: rest =>
    match decimalDigit? c with
    | some d =>
      let (ds, rest) := digitRun rest
      (d :: ds, rest)
    | none => ([], '_' :: c :: rest)
  | c :: rest =>
    match decimalDigit? c with
    | some d =>
      let (ds, rest) := digitRun rest
      (d :: ds, rest)
    | none => ([], c :: rest)
  | [] => ([], [])

/-- A run that starts with a digit. -/
def digits? (cs : List Char) : Option (List Nat × List Char) :=
  match cs with
  | c :: _ => if (decimalDigit? c).isSome then some (digitRun cs) else none
  | [] => none

/-- The value of digits in a base. -/
def valueIn (base : Nat) (ds : List Nat) : Nat := ds.foldl (fun n d => n * base + d) 0

/-- An exponent with its mark. -/
def exponent? (cs : List Char) : Option (Int × List Char) :=
  match cs with
  | c :: rest =>
    if c = 'e' || c = 'E' then
      let (negative, rest) := Decimal.signed rest
      (digits? rest).map fun (ds, rest) =>
        let n : Int := valueIn 10 ds
        (if negative then -n else n, rest)
    else none
  | [] => none

/-- A number with decimals or an exponent.  It does not start behind a point. -/
def real? (afterPoint : Bool) (cs : List Char) : Option (Float × List Char) := do
  if afterPoint then none
  else
    let (whole, rest) ← digits? cs
    let fraction? : Option (List Nat × List Char) :=
      match rest with
      | '.' :: rest => digits? rest
      | _ => none
    match fraction? with
    | some (fraction, rest) =>
      let (exponent, rest) := (exponent? rest).getD (0, rest)
      return (Decimal.Binary64.ofDecimal false (valueIn 10 (whole ++ fraction))
        (exponent - fraction.length), rest)
    | none =>
      let (exponent, rest) ← exponent? rest
      return (Decimal.Binary64.ofDecimal false (valueIn 10 whole) exponent, rest)

/-- The value of a digit in base sixteen. -/
def hexDigit? (c : Char) : Option Nat :=
  match decimalDigit? c with
  | some d => some d
  | none => Hex.digit? c

/-- Digits of a base, each with at most one underscore in front. -/
def basedRun (digit? : Char → Option Nat) : List Char → List Nat × List Char
  | '_' :: c :: rest =>
    match digit? c with
    | some d =>
      let (ds, rest) := basedRun digit? rest
      (d :: ds, rest)
    | none => ([], '_' :: c :: rest)
  | c :: rest =>
    match digit? c with
    | some d =>
      let (ds, rest) := basedRun digit? rest
      (d :: ds, rest)
    | none => ([], c :: rest)
  | [] => ([], [])

/-- The digits below a bound, ASCII only. -/
def digitBelow? (bound : Nat) (c : Char) : Option Nat :=
  match Hex.digit? c with
  | some d => if d < bound then some d else none
  | none => none

/-- A whole number with a base mark. -/
def based? (cs : List Char) : Option (Nat × List Char) :=
  match cs with
  | '0' :: mark :: rest =>
    let read (base : Nat) (digit? : Char → Option Nat) : Option (Nat × List Char) :=
      match basedRun digit? rest with
      | ([], _) => none
      | (ds, rest) => some (valueIn base ds, rest)
    let mark := mark.toLower
    if mark = 'b' then read 2 (digitBelow? 2)
    else if mark = 'o' then read 8 (digitBelow? 8)
    else if mark = 'x' then read 16 hexDigit?
    else none
  | _ => none

/-- A whole number: with a base mark, in decimal without leading zeros, or
zeros alone. -/
def whole? (cs : List Char) : Option (Nat × List Char) :=
  match based? cs with
  | some r => some r
  | none =>
    match cs with
    | c :: _ =>
      if '1' ≤ c ∧ c ≤ '9' then
        let (ds, rest) := digitRun cs
        some (valueIn 10 ds, rest)
      else if c = '0' then
        some (0, (basedRun (digitBelow? 1) cs).2)
      else none
    | [] => none

/-- The characters up to a closing quote, escapes left as they are. -/
def quotedPart? (quote : Char) : List Char → Option (List Char × List Char)
  | [] => none
  | '\\' :: c :: rest => (quotedPart? quote rest).map fun (cs, rest) => ('\\' :: c :: cs, rest)
  | c :: rest =>
    if c = quote then some ([], rest)
    else if c = '\\' then none
    else (quotedPart? quote rest).map fun (cs, rest) => (c :: cs, rest)

/-- A character as an escape if it is outside ASCII. -/
def asciiForm (c : Char) : List Char :=
  let n := c.toNat
  let padded (width : Nat) : List Char :=
    let ds := Nat.toDigits 16 n
    List.replicate (width - ds.length) '0' ++ ds
  if n < 0x80 then [c]
  else if n ≤ 0xff then '\\' :: 'x' :: padded 2
  else if n ≤ 0xffff then '\\' :: 'u' :: padded 4
  else '\\' :: 'U' :: padded 8

/-- The characters of codes.  A pair of surrogates is one character, and a surrogate by
itself is the replacement character. -/
def charsOf : List Nat → List Char
  | [] => []
  | [n] => [Char.ofNat (if 0xd800 ≤ n ∧ n < 0xe000 then 0xfffd else n)]
  | n :: m :: rest =>
    if 0xd800 ≤ n ∧ n < 0xdc00 ∧ 0xdc00 ≤ m ∧ m < 0xe000 then
      Char.ofNat (0x10000 + (n - 0xd800) * 0x400 + (m - 0xdc00)) :: charsOf rest
    else Char.ofNat (if 0xd800 ≤ n ∧ n < 0xe000 then 0xfffd else n) :: charsOf (m :: rest)

/-- The character that a one-letter escape stands for. -/
def escape? (c : Char) : Option Char :=
  if c = 'n' then some '\n'
  else if c = 't' then some '\t'
  else if c = 'r' then some '\r'
  else if c = 'a' then some '\x07'
  else if c = 'b' then some '\x08'
  else if c = 'f' then some '\x0c'
  else if c = 'v' then some '\x0b'
  else if c = '\\' || c = '\'' || c = '"' then some c
  else none

/-- The value of hexadecimal digits. -/
def hexValue? (ds : List Char) : Option Nat := (ds.mapM Hex.digit?).map (valueIn 16)

/-- Whether a character is an octal digit. -/
def isOctal (c : Char) : Bool := '0' ≤ c && c ≤ '7'

/-- The value of octal digits. -/
def octalValue (ds : List Char) : Nat := valueIn 8 (ds.map fun c => c.toNat - '0'.toNat)

/-- The code that hexadecimal digits stand for. -/
def hexCode? (ds : List Char) : Option Nat := (hexValue? ds).filter (· < 0x110000)

/-- The codes of the characters of a text, with the escapes replaced by what they stand
for.  An escape of no meaning stays as it is; one that is cut short, and the name of a
character, are refused. -/
def unescape? : List Char → Option (List Nat)
  | [] => some []
  | '\\' :: '\n' :: rest => unescape? rest
  | '\\' :: 'x' :: a :: b :: rest => return (← hexCode? [a, b]) :: (← unescape? rest)
  | '\\' :: 'u' :: a :: b :: c :: d :: rest =>
    return (← hexCode? [a, b, c, d]) :: (← unescape? rest)
  | '\\' :: 'U' :: a :: b :: c :: d :: e :: f :: g :: h :: rest =>
    return (← hexCode? [a, b, c, d, e, f, g, h]) :: (← unescape? rest)
  | '\\' :: a :: rest =>
    if a = 'x' || a = 'u' || a = 'U' || a = 'N' then none
    else if isOctal a then
      match rest with
      | b :: c :: more =>
        if isOctal b && isOctal c then return octalValue [a, b, c] :: (← unescape? more)
        else if isOctal b then return octalValue [a, b] :: (← unescape? (c :: more))
        else return octalValue [a] :: (← unescape? (b :: c :: more))
      | [b] =>
        if isOctal b then some [octalValue [a, b]]
        else return octalValue [a] :: (← unescape? [b])
      | [] => some [octalValue [a]]
    else
      match escape? a with
      | some x => return x.toNat :: (← unescape? rest)
      | none => return '\\'.toNat :: a.toNat :: (← unescape? rest)
  | c :: rest => return c.toNat :: (← unescape? rest)

/-- Whether an escape stands for a character by the name of it. -/
def namesCharacter : List Char → Bool
  | '\\' :: 'N' :: '\x7b' :: _ => true
  | '\\' :: _ :: rest => namesCharacter rest
  | _ :: rest => namesCharacter rest
  | [] => false

/-- A quoted text at the start: its meaning if its escapes are sound, the source
between the quotes, and what follows. -/
def quoted? (cs : List Char) : Option (Option String × List Char × List Char) :=
  match cs with
  | c :: rest =>
    if c = '\'' || c = '"' then
      (quotedPart? c rest).map fun (source, rest) =>
        ((unescape? (source.flatMap asciiForm)).map (String.ofList ∘ charsOf), source, rest)
    else none
  | [] => none

/-- The operators of two characters. -/
def pairs : List (List Char) :=
  [['/', '/'], ['*', '*'], ['=', '='], ['!', '='], ['>', '='], ['<', '=']]

/-- The operators of one character. -/
def singles : List Char :=
  ['+', '-', '/', '*', '%', '~', '[', ']', '(', ')', '\x7b', '\x7d', '>', '<', '=', '.', ':', '|',
    ',', ';']

/-- The operator at the start of a text. -/
def operator? (cs : List Char) : Option (List Char × List Char) :=
  if pairs.contains (cs.take 2) then some (cs.take 2, cs.drop 2)
  else
    match cs with
    | c :: rest => if singles.contains c then some ([c], rest) else none
    | [] => none

/-- The brackets that are open after an operator, nothing if it closes one that
is not open. -/
def balance? (brackets : List Char) (operator : List Char) : Option (List Char) :=
  match operator with
  | ['('] => some (')' :: brackets)
  | ['['] => some (']' :: brackets)
  | ['\x7b'] => some ('\x7d' :: brackets)
  | [c] =>
    if c = ')' || c = ']' || c = '\x7d' then
      match brackets with
      | b :: rest => if b = c then some rest else none
      | [] => none
    else some brackets
  | _ => some brackets

/-- A data token, unless there is no text. -/
def dataToken (line : Nat) (text : List Char) : List Token :=
  if text.isEmpty then [] else [⟨line, .data (String.ofList text)⟩]

/-- Where the reader of tokens is: in text, or in a tag with the brackets that are
open in it, the closing brackets due first, and directly behind a point or not. -/
inductive Place where
  | text
  | tag (block : Bool) (brackets : List Char) (afterPoint : Bool)

/-- What a piece of the source gives: tokens, the place and the line behind it,
and the rest.  Nothing means that the source ends. -/
structure Step where
  tokens : List Token
  place : Place
  line : Nat
  rest : List Char

/-- The step over text up to the next tag and over the mark that opens it. -/
def textStep (line : Nat) (cs : List Char) : Option Step :=
  match splitAtFirst? tagAt? cs with
  | none => if cs.isEmpty then none else some ⟨dataToken line cs, .text, line, []⟩
  | some (before, tag, strip, rest) =>
    let shown := if strip then dropEndWhile isBlank before else before
    let data := dataToken line shown
    let line := line + countNewlines before
    match tag with
    | .output => some ⟨data ++ [⟨line, .outputBegin⟩], .tag false [] false, line, rest⟩
    | .block => some ⟨data ++ [⟨line, .blockBegin⟩], .tag true [] false, line, rest⟩
    | .comment =>
      match splitAtFirst? afterComment? rest with
      | some (comment, lines, after) =>
        some ⟨data, .text, line + countNewlines comment + lines, after⟩
      | none =>
        some ⟨data ++ (if rest.isEmpty then [] else [⟨line, .broken none⟩]), .text, line, []⟩
    | .raw opened =>
      let line := line + opened
      match splitAtFirst? afterRawEnd? rest with
      | some (content, strip, lines, after) =>
        let shown := if strip then dropEndWhile isBlank content else content
        some ⟨data ++ dataToken line shown, .text, line + countNewlines content + lines, after⟩
      | none =>
        some ⟨data ++ (if rest.isEmpty then [] else [⟨line, .broken none⟩]), .text, line, []⟩

/-- What follows the end of the tag at the start of a text, if it is there and
counts, and the line ends before it. -/
def tagEnd? (block : Bool) (brackets : List Char) (cs : List Char) : Option (Nat × List Char) :=
  if brackets.isEmpty then
    if block then afterEnd? true blockClosing cs else afterEnd? false outputClosing cs
  else none

/-- Whether all characters are ASCII. -/
def isAscii (cs : List Char) : Bool := cs.all fun c => c.toNat < 0x80

/-- The step over one piece inside a tag. -/
def tagStep (block : Bool) (brackets : List Char) (afterPoint : Bool) (line : Nat)
    (cs : List Char) : Option Step :=
  let stay (lexeme : Lexeme) (rest : List Char) (lines : Nat) : Option Step :=
    some ⟨[⟨line, lexeme⟩], .tag block brackets false, line + lines, rest⟩
  let broken : Option Step := some ⟨[⟨line, .broken none⟩], .text, line, []⟩
  let brokenFor (f : Fault) : Option Step := some ⟨[⟨line, .broken (some f)⟩], .text, line, []⟩
  match tagEnd? block brackets cs with
  | some (lines, rest) =>
    some ⟨[⟨line, if block then .blockEnd else .outputEnd⟩], .text, line + lines, rest⟩
  | none =>
    match cs with
    | [] => none
    | c :: _ =>
      if isBlank c then
        let blank := cs.takeWhile isBlank
        some ⟨[], .tag block brackets false, line + countNewlines blank, cs.dropWhile isBlank⟩
      else
        match real? afterPoint cs with
        | some (x, rest) =>
          if isAscii (cs.take (cs.length - rest.length)) then stay (.real x) rest 0
          else brokenFor ⟨.form, "a digit of a double is not ASCII"⟩
        | none =>
          match whole? cs with
          | some (n, rest) =>
            if (based? cs).isSome || n < Nat.pow 10 Decimal.maxDigits then stay (.whole n) rest 0
            else brokenFor ⟨.value, "a whole number has too many digits to be read"⟩
          | none =>
            if isWordChar c then
              let word := cs.takeWhile isWordChar
              if isIdentifier word then
                stay (.name (String.ofList word)) (cs.dropWhile isWordChar) 0
              else broken
            else
              match quoted? cs with
              | some (some s, source, rest) => stay (.text s) rest (countNewlines source)
              | some (none, source, _) =>
                if namesCharacter source then brokenFor (.unavailable "name of a character")
                else broken
              | none =>
                match operator? cs with
                | some (op, rest) =>
                  match balance? brackets op with
                  | some brackets =>
                    some ⟨[⟨line, .operator (String.ofList op)⟩],
                      .tag block brackets (op == ['.']), line, rest⟩
                  | none => broken
                | none => broken

/-- Reads pieces to the end of the source, at most `fuel` of them. -/
def scanFrom : Nat → Place → Nat → List Char → List Token
  | 0, _, _, _ => []
  | fuel + 1, place, line, cs =>
    let step? :=
      match place with
      | .text => textStep line cs
      | .tag block brackets afterPoint => tagStep block brackets afterPoint line cs
    match step? with
    | none => []
    | some step => step.tokens ++ scanFrom fuel step.place step.line step.rest

/-- The tokens of a template.  Every step but the last takes a character. -/
def scan (source : String) : List Token :=
  let cs := source.toList
  scanFrom (cs.length + 2) .text 1 cs

end Token
end NodePools.Template
