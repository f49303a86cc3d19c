import NodePools.Toml.Nest
import NodePools.Toml.Scalar

/-!
# Keys and values in TOML

A key is one or more parts joined by points.  A value is a scalar, a list over
any number of lines, or a table on one line.  Tables and lists written as values
cannot be added to later on.
-/

namespace NodePools.Toml

/-- Whether a character may stand in a key without quotes. -/
def isBare (c : Char) : Bool := (c.isAlphanum) || c == '-' || c == '_'

/-- What follows the blanks of a line. -/
def skipBlanks (cs : List Char) : List Char := cs.dropWhile isBlank

/-- One part of a key. -/
def readKeyPart (cs : List Char) : Except Refusal (String × List Char) :=
  match cs with
  | c :: _ =>
    if isBare c then .ok (String.ofList (cs.takeWhile isBare), cs.dropWhile isBare)
    else do
      let (content, rest) ← demand (readKeyText cs)
      return (String.ofList content, rest)
  | [] => .error .malformed

/-- A key, and what follows the blanks behind it. -/
def readKey : Nat → List Char → Except Refusal (List String × List Char)
  | 0, _ => .error .malformed
  | fuel + 1, cs => do
    let (part, rest) ← readKeyPart cs
    match skipBlanks rest with
    | '.' :: rest =>
      let (parts, rest) ← readKey fuel (skipBlanks rest)
      return (part :: parts, rest)
    | rest => return ([part], rest)

/-- What follows a comment, if there is one. -/
def skipComment (cs : List Char) : Except Refusal (List Char) :=
  match cs with
  | '#' :: rest =>
    let comment := rest.takeWhile (· != '\n')
    if comment.any isControl then .error .malformed else .ok (rest.dropWhile (· != '\n'))
  | _ => .ok cs

/-- What follows blanks, line ends and comments. -/
def skipLines : Nat → List Char → Except Refusal (List Char)
  | 0, cs => .ok cs
  | fuel + 1, cs => do
    let rest ← skipComment (cs.dropWhile isSpace)
    if rest.length = cs.length then return rest else skipLines fuel rest

/-- The table that a key and a value add to an inline table, and whether the
key is free to be written to: `frozen` holds the paths of finished values. -/
def addInline (frozen : List (List String)) (key : List String) (value : Datum)
    (table : Fields Datum) : Option (Fields Datum) :=
  match key.getLast? with
  | none => none
  | some stem =>
    if covers frozen key then none else updateAt false (addNew stem value) key.dropLast table

/-- Whether a value is a list or a table. -/
def isNest : Datum → Bool
  | .list _ | .table _ => true
  | _ => false

mutual

/-- Reads a value. -/
def readValue : Nat → List Char → Except Refusal (Datum × List Char)
  | 0, _ => .error .malformed
  | fuel + 1, cs =>
    match cs with
    | [] => .error .malformed
    | '[' :: rest => do
      match ← skipLines rest.length rest with
      | ']' :: rest => return (.list [], rest)
      | rest =>
        let (items, rest) ← readItems fuel rest
        return (.list items, rest)
    | '\x7b' :: rest =>
      match skipBlanks rest with
      | '\x7d' :: rest => .ok (.table [], rest)
      | rest => do
        let (table, rest) ← readInline fuel [] [] rest
        return (.table table, rest)
    | c :: _ =>
      if c = '"' || c = '\'' then do
        let (content, rest) ← demand (readText cs)
        return (.text (String.ofList content), rest)
      else readScalar cs

/-- Reads the items of a list up to its end. -/
def readItems : Nat → List Char → Except Refusal (List Datum × List Char)
  | 0, _ => .error .malformed
  | fuel + 1, cs => do
    let (item, rest) ← readValue fuel cs
    match ← skipLines rest.length rest with
    | ']' :: rest => return ([item], rest)
    | ',' :: rest =>
      match ← skipLines rest.length rest with
      | ']' :: rest => return ([item], rest)
      | rest =>
        let (items, rest) ← readItems fuel rest
        return (item :: items, rest)
    | _ => .error .malformed

/-- Reads the entries of a table on one line up to its end. -/
def readInline : Nat → List (List String) → Fields Datum → List Char →
    Except Refusal (Fields Datum × List Char)
  | 0, _, _, _ => .error .malformed
  | fuel + 1, frozen, table, cs => do
    let (key, rest) ← readKey cs.length cs
    let rest ← demand (after? '=' rest)
    let (value, rest) ← readValue fuel (skipBlanks rest)
    let table ← demand (addInline frozen key value table)
    match skipBlanks rest with
    | '\x7d' :: rest => return (table, rest)
    | ',' :: rest =>
      readInline fuel (if isNest value then key :: frozen else frozen) table (skipBlanks rest)
    | _ => .error .malformed

end

/-- Reads a key, an equals sign and a value. -/
def readPair (cs : List Char) : Except Refusal ((List String × Datum) × List Char) := do
  let (key, rest) ← readKey cs.length cs
  let rest ← demand (after? '=' rest)
  let rest := skipBlanks rest
  let (value, rest) ← readValue (2 * rest.length + 2) rest
  return ((key, value), rest)

end NodePools.Toml
