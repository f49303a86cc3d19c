import NodePools.Toml.Value

/-!
# TOML documents

A document is a sequence of lines: a heading opens a table or a further table
of a list, and a key with a value writes into the open table.  A table can be
opened once.  A table that a dotted key made cannot be opened afterwards, and a
list or table that was written as a value cannot be added to.
-/

namespace NodePools.Toml

/-- A document as far as it is read.  `opened` holds the paths that may not be
opened again, `frozen` those of finished values, and `pending` the paths that
dotted keys have made since the last heading, which the next heading closes. -/
structure Document where
  data : Fields Datum
  header : List String
  opened : List (List String)
  frozen : List (List String)
  pending : List (List String)

namespace Document

/-- The document before its first line. -/
def empty : Document := ⟨[], [], [], [], []⟩

/-- A heading closes the paths that dotted keys have made. -/
def closePending (d : Document) : Document :=
  { d with opened := d.pending ++ d.opened, pending := [] }

/-- Opens a table. -/
def openTable (key : List String) (d : Document) : Option Document := do
  if d.opened.contains key || covers d.frozen key then none
  else
    let data ← updateAt true some key d.data
    return { d with data, header := key, opened := key :: d.opened }

/-- Opens a further table of a list.  What was opened in the table before it may
be opened again in this one. -/
def openItem (key : List String) (d : Document) : Option Document := do
  if covers d.frozen key then none
  else
    let stem ← key.getLast?
    let data ← updateAt true (addTable stem) key.dropLast d.data
    let apart (paths : List (List String)) := paths.filter fun p => !key.isPrefixOf p
    return { d with data, header := key, opened := key :: apart d.opened, frozen := apart d.frozen }

/-- The proper beginnings of a path that are not empty. -/
def beginnings (key : List String) : List (List String) :=
  (List.range (key.length - 1)).map fun i => key.take (i + 1)

/-- Writes a value into the open table. -/
def write (key : List String) (value : Datum) (d : Document) : Option Document := do
  let stem ← key.getLast?
  let made := (beginnings key).map (d.header ++ ·)
  let parent := d.header ++ key.dropLast
  if made.any d.opened.contains || covers d.frozen parent then none
  else
    let data ← updateAt true (addNew stem value) parent d.data
    let frozen := if isNest value then (d.header ++ key) :: d.frozen else d.frozen
    return { d with data, frozen, pending := made ++ d.pending }

end Document

/-- Reads the key of a heading and its closing. -/
def readHeading (closing cs : List Char) : Except Refusal (List String × List Char) := do
  let (key, rest) ← readKey cs.length (skipBlanks cs)
  let rest ← demand (Text.afterStart? closing rest)
  return (key, rest)

/-- Takes in one line up to a comment or its end. -/
def readLine (d : Document) (cs : List Char) : Except Refusal (Document × List Char) :=
  match cs with
  | '[' :: '[' :: rest => do
    let (key, rest) ← readHeading [']', ']'] rest
    return (← demand (d.closePending.openItem key), rest)
  | '[' :: rest => do
    let (key, rest) ← readHeading [']'] rest
    return (← demand (d.closePending.openTable key), rest)
  | '#' :: _ => .ok (d, cs)
  | cs => do
    let ((key, value), rest) ← readPair cs
    return (← demand (d.write key value), rest)

/-- Reads lines to the end of the text. -/
def readLines : Nat → Document → List Char → Except Refusal Document
  | 0, d, _ => .ok d
  | fuel + 1, d, cs =>
    match skipBlanks cs with
    | [] => .ok d
    | '\n' :: rest => readLines fuel d rest
    | cs => do
      let (d, rest) ← readLine d cs
      match ← skipComment (skipBlanks rest) with
      | [] => return d
      | '\n' :: rest => readLines fuel d rest
      | _ => .error .malformed

/-- Turns the pair of carriage return and line feed into a line feed. -/
def joinLineEnds : List Char → List Char
  | '\r' :: '\n' :: rest => '\n' :: joinLineEnds rest
  | c :: rest => c :: joinLineEnds rest
  | [] => []

/-- The table that a document stands for. -/
def parse (s : String) : Except Refusal (Fields Datum) := do
  let cs := joinLineEnds s.toList
  return (← readLines (cs.length + 1) .empty cs).data

end NodePools.Toml
