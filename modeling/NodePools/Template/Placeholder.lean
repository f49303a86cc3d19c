import NodePools.Decimal.Rounded
import NodePools.Template.Compare
import NodePools.Template.Print

/-!
# Placeholders

A text is filled in with values: a percent sign opens a placeholder, which says
which value stands there, in which width and precision, and how it is written.
The values are those of a tuple one after the other, one value alone, or the
items of a table by their names.  All of a tuple's values must be used.
-/

namespace NodePools.Template

/-- The flags behind the percent sign. -/
structure PlaceholderFlags where
  /-- Fills up behind the value and not in front of it. -/
  left : Bool
  /-- Writes the sign of a number that is not negative. -/
  plus : Bool
  /-- Writes a blank for that sign. -/
  blank : Bool
  /-- Marks the base of a whole number and keeps the point of a double. -/
  alternate : Bool
  /-- Fills up numbers with zeros. -/
  zeros : Bool
deriving Repr, DecidableEq

/-- A width or a precision. -/
inductive PlaceholderSize where
  | unset
  | given (n : Nat)
  /-- The next value says it. -/
  | fromValue
deriving Repr, DecidableEq

/-- Which item of a table stands in a placeholder. -/
inductive PlaceholderKey where
  | absent
  /-- The text ends before the name does. -/
  | unclosed
  | named (name : String)
deriving Repr, DecidableEq

/-- A place in a text where a value goes. -/
structure Placeholder where
  key : PlaceholderKey
  flags : PlaceholderFlags
  width : PlaceholderSize
  precision : PlaceholderSize
  /-- The letter that says how the value is written, unless the text ends before
  it. -/
  conversion : Option Char
deriving Repr, DecidableEq

/-- A character that stands for itself, or a placeholder. -/
inductive TextPiece where
  | char (c : Char)
  | placeholder (p : Placeholder)
deriving Repr, DecidableEq

namespace Placeholder

/-- The flags in front of a text, added to those before. -/
def readFlags (f : PlaceholderFlags) : List Char → PlaceholderFlags × List Char
  | '-' :: rest => readFlags { f with left := true } rest
  | '+' :: rest => readFlags { f with plus := true } rest
  | ' ' :: rest => readFlags { f with blank := true } rest
  | '#' :: rest => readFlags { f with alternate := true } rest
  | '0' :: rest => readFlags { f with zeros := true } rest
  | cs => (f, cs)

/-- The number that digits stand for. -/
def digitsValue (cs : List Char) : Nat := cs.foldl (fun n c => n * 10 + (c.toNat - '0'.toNat)) 0

/-- A size in front of a text. -/
def readSize : List Char → PlaceholderSize × List Char
  | '*' :: rest => (.fromValue, rest)
  | cs =>
    match cs.takeWhile Char.isDigit with
    | [] => (.unset, cs)
    | digits => (.given (digitsValue digits), cs.dropWhile Char.isDigit)

/-- A precision in front of a text: a point, and none of a size means zero. -/
def readPrecision : List Char → PlaceholderSize × List Char
  | '.' :: rest =>
    match readSize rest with
    | (.unset, rest) => (.given 0, rest)
    | found => found
  | cs => (.unset, cs)

/-- What stands before the bracket that closes `depth` open ones and one more, and
what stands behind it. -/
def untilClosed (depth : Nat) : List Char → Option (List Char × List Char)
  | [] => none
  | ')' :: rest =>
    match depth with
    | 0 => some ([], rest)
    | depth + 1 => (untilClosed depth rest).map fun (name, rest) => (')' :: name, rest)
  | '(' :: rest => (untilClosed (depth + 1) rest).map fun (name, rest) => ('(' :: name, rest)
  | c :: rest => (untilClosed depth rest).map fun (name, rest) => (c :: name, rest)

/-- A name between brackets in front of a text. -/
def readKey : List Char → PlaceholderKey × List Char
  | '(' :: rest =>
    match untilClosed 0 rest with
    | some (name, rest) => (.named (String.ofList name), rest)
    | none => (.unclosed, [])
  | cs => (.absent, cs)

/-- A letter without meaning may stand in front of the conversion. -/
def skipLength : List Char → List Char
  | c :: rest => if c = 'h' || c = 'l' || c = 'L' then rest else c :: rest
  | [] => []

/-- The placeholder behind a percent sign, and what follows it. -/
def read (cs : List Char) : Placeholder × List Char :=
  let (key, cs) := readKey cs
  let (flags, cs) := readFlags ⟨false, false, false, false, false⟩ cs
  let (width, cs) := readSize cs
  let (precision, cs) := readPrecision cs
  let cs := skipLength cs
  (⟨key, flags, width, precision, cs.head?⟩, cs.tail)

/-- The pieces of a text.  Two percent signs stand for one. -/
def pieces : List Char → List TextPiece
  | [] => []
  | '%' :: '%' :: rest => .char '%' :: pieces rest
  | '%' :: rest =>
    let (p, after) := read rest
    .placeholder p :: pieces (rest.drop (rest.length - after.length))
  | c :: rest => .char c :: pieces rest
termination_by cs => cs.length
decreasing_by all_goals simp only [List.length_cons, List.length_drop]; omega

end Placeholder

/-- The values that are left to fill in, and the value whose items they may be
instead. -/
structure Supply where
  table : Option Value
  left : List Value

/-- A step of filling in. -/
abbrev Filling := StateT Supply Eval

/-- The parts of a written value: its sign, the mark of its base, and the rest. -/
structure Figure where
  sign : List Char
  mark : List Char
  body : List Char

/-- A figure filled up to a width. -/
def Figure.fill (f : Figure) (left zeros : Bool) (width : Nat) : List Char :=
  let missing := width - (f.sign.length + f.mark.length + f.body.length)
  if left then f.sign ++ f.mark ++ f.body ++ List.replicate missing ' '
  else if zeros then f.sign ++ f.mark ++ List.replicate missing '0' ++ f.body
  else List.replicate missing ' ' ++ f.sign ++ f.mark ++ f.body

/-- The sign of a number under some flags. -/
def PlaceholderFlags.sign (f : PlaceholderFlags) (negative : Bool) : List Char :=
  if negative then ['-'] else if f.plus then ['+'] else if f.blank then [' '] else []

namespace Value

/-- The fault of a text that ends within a placeholder. -/
def incompleteText {α : Type} : Eval α := throw (.fault ⟨.value, "incomplete format"⟩)

/-- The fault of values that no placeholder uses. -/
def unusedValues {α : Type} : Eval α :=
  typeFault "not all arguments converted during string formatting"

/-- The next value. -/
def nextValue : Filling Value := do
  let s ← get
  match s.left with
  | v :: rest =>
    set { s with left := rest }
    return v
  | [] => (typeFault "not enough arguments for format string" : Eval Value)

/-- The value under a name in the value whose items are filled in. -/
def namedValue (source : Value) (name : String) : Eval Value :=
  match source with
  | .undefined why => throw (.missing why)
  | .table entries => do
    match ← lookup? (.text name) entries with
    | some v => return v
    | none => throw (.fault ⟨.key, Text.quoted name⟩)
  | v => typeFault s!"{v.typeName} indices must be integers"

/-- Makes the value under a placeholder's name the only one left. -/
def chooseKey : PlaceholderKey → Filling Unit
  | .absent => return
  | key => do
    match (← get).table, key with
    | none, _ => (typeFault "format requires a mapping" : Eval Unit)
    | some _, .absent => return
    | some _, .unclosed => (throw (.fault ⟨.value, "incomplete format key"⟩) : Eval Unit)
    | some source, .named name => do
      let v ← namedValue source name
      set (⟨some source, [v]⟩ : Supply)

/-- A width or a precision, held below a limit. -/
def sizeOf (limit : Nat) : PlaceholderSize → Filling (Option Int)
  | .unset => return none
  | .given n =>
    if limit ≤ n then (throw (.fault ⟨.value, "width or precision too big"⟩) : Eval (Option Int))
    else return some n
  | .fromValue => do
    match (← nextValue).wholeNumber? with
    | none => (typeFault "* wants int" : Eval (Option Int))
    | some n =>
      if limit ≤ n.natAbs then
        (throw (.fault ⟨.overflow, "number too large for a size"⟩) : Eval (Option Int))
      else return some n

/-- The fault of a value that is no number. -/
def noNumber {α : Type} (v : Value) : Eval α :=
  match v with
  | .undefined why => throw (.missing why)
  | v => typeFault s!"a real number is required, not {v.typeName}"

/-- A whole number with at least so many digits in a base. -/
def wholeFigure (flags : PlaceholderFlags) (precision base : Nat) (mark : List Char) (n : Int) :
    Figure :=
  let digits := Nat.toDigits base n.natAbs
  ⟨flags.sign (n < 0), if flags.alternate then mark else [],
    List.replicate (precision - digits.length) '0' ++ digits⟩

/-- A whole number in base ten. -/
def tenFigure (flags : PlaceholderFlags) (precision : Nat) (n : Int) : Eval Figure :=
  if Decimal.canWrite n then pure (wholeFigure flags precision 10 [] n) else throw (.fault .tooManyDigits)

/-- A number in base ten; the decimals of a double are cut off. -/
def decimalFigure (flags : PlaceholderFlags) (precision : Nat) (v : Value) : Eval Figure := do
  match v.number? with
  | some (.whole n) => tenFigure flags precision n
  | some (.real x) => tenFigure flags precision (← (Datum.real x).toInt : Int)
  | none => noNumber v

/-- A whole number in another base. -/
def basedFigure (flags : PlaceholderFlags) (precision base : Nat) (mark : List Char) (v : Value) :
    Eval Figure :=
  match v.wholeNumber? with
  | some n => pure (wholeFigure flags precision base mark n)
  | none => typeFault s!"an integer is required, not {v.typeName}"

/-- A figure in capital letters. -/
def capitals (f : Figure) : Figure := ⟨f.sign, f.mark.map Char.toUpper, f.body.map Char.toUpper⟩

/-- A number as a double with a given number of digits. -/
def doubleFigure (flags : PlaceholderFlags) (style : Decimal.RoundedStyle)
    (precision : Option Nat) (v : Value) : Eval Figure := do
  match v.number? with
  | some n =>
    let (negative, body) :=
      Decimal.rounded style (precision.getD 6) flags.alternate (← double n)
    return ⟨flags.sign negative, [], body⟩
  | none => noNumber v

/-- One character, given as such or by its code point. -/
def charFigure (v : Value) : Eval Figure :=
  match v.text? with
  | some s =>
    match s.toList with
    | [c] => pure ⟨[], [], [c]⟩
    | _ => typeFault "%c requires int or char"
  | none =>
    match v.wholeNumber? with
    | some n =>
      if n < 0 || 0x110000 ≤ n then
        throw (.fault ⟨.overflow, "%c arg not in range(0x110000)"⟩)
      else pure ⟨[], [], [Char.ofNat n.toNat]⟩
    | none => typeFault "%c requires int or char"

/-- A value's text within another one, cut to its precision.  Within escaped text it
is escaped, unless it already is. -/
def textFigure (pattern : Value) (precision : Option Nat) (v : Value) (text : String) : Figure :=
  let text :=
    match pattern, v with
    | .escaped _, .escaped _ => text
    | .escaped _, _ => escapeText text
    | _, _ => text
  ⟨[], [], match precision with
    | some n => text.toList.take n
    | none => text.toList⟩

/-- A value as its conversion says, and whether zeros may fill it up. -/
def convert (pattern : Value) (flags : PlaceholderFlags) (precision : Option Nat)
    (conversion : Char) (v : Value) : Eval (Figure × Bool) := do
  let digits := precision.getD 0
  if conversion = 's' then return (textFigure pattern precision v (← v.plain), false)
  else if conversion = 'r' then
    return (textFigure pattern precision (.text "") (← v.shown), false)
  else if conversion = 'a' then
    let shown := String.ofList (Text.asciiOnly (← v.shown).toList)
    return (textFigure pattern precision (.text "") shown, false)
  else if conversion = 'd' || conversion = 'i' || conversion = 'u' then
    return (← decimalFigure flags digits v, true)
  else if conversion = 'o' then return (← basedFigure flags digits 8 ['0', 'o'] v, true)
  else if conversion = 'x' then return (← basedFigure flags digits 16 ['0', 'x'] v, true)
  else if conversion = 'X' then
    return (capitals (← basedFigure flags digits 16 ['0', 'x'] v), true)
  else if conversion = 'f' then return (← doubleFigure flags .fixed precision v, true)
  else if conversion = 'F' then return (capitals (← doubleFigure flags .fixed precision v), true)
  else if conversion = 'e' then return (← doubleFigure flags .scientific precision v, true)
  else if conversion = 'E' then
    return (capitals (← doubleFigure flags .scientific precision v), true)
  else if conversion = 'g' then return (← doubleFigure flags .general precision v, true)
  else if conversion = 'G' then return (capitals (← doubleFigure flags .general precision v), true)
  else if conversion = 'c' then return (← charFigure v, false)
  else throw (.fault ⟨.value, "unsupported format character"⟩)

/-- What stands in a placeholder. -/
def placeholderText (pattern : Value) (p : Placeholder) : Filling (List Char) := do
  chooseKey p.key
  let width ← sizeOf (Nat.pow 2 63) p.width
  let precision ← sizeOf (Nat.pow 2 31) p.precision
  match p.conversion with
  | none => (incompleteText : Eval (List Char))
  | some conversion =>
    let v ← nextValue
    let (figure, zeros) ← convert pattern p.flags (precision.map Int.toNat) conversion v
    let width := width.getD 0
    return figure.fill (p.flags.left || width < 0) (zeros && p.flags.zeros) width.natAbs

/-- A piece filled in.  A value chosen by name must be used at once. -/
def pieceText (pattern : Value) : TextPiece → Filling (List Char)
  | .char c => return [c]
  | .placeholder p => do
    let text ← placeholderText pattern p
    let s ← get
    if s.table.isSome && !s.left.isEmpty then (unusedValues : Eval (List Char))
    else return text

/-- Whether a value has items that a placeholder may name. -/
def hasNamedItems : Value → Bool
  | .table _ | .list _ | .range .. | .bytes _ | .undefined .. => true
  | _ => false

/-- The values to fill in. -/
def supplyOf : Value → Supply
  | .tuple items => ⟨none, items⟩
  | v => ⟨if v.hasNamedItems then some v else none, [v]⟩

/-- A text filled in with values. -/
def filledIn (pattern : Value) (s : String) (values : Value) : Eval Value := do
  let (texts, rest) ← ((Placeholder.pieces s.toList).mapM (pieceText pattern)).run (supplyOf values)
  if rest.table.isNone && !rest.left.isEmpty then unusedValues
  else
    let text := String.ofList texts.flatten
    match pattern with
    | .escaped _ => return .escaped text
    | _ => return .text text

end Value
end NodePools.Template
