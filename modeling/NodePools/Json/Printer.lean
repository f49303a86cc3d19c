import NodePools.Json.Basic
import NodePools.Json.Quoted

/-!
# Writing JSON

A document is laid out with one entry a line, two spaces deeper for every level
of nesting.  Empty lists and tables stay on their line.
-/

namespace NodePools.Json

/-- A line end and the blanks in front of a line at a depth. -/
def newLine (depth : Nat) : List Char := '\n' :: List.replicate (2 * depth) ' '

/-- A decimal number. -/
def numberText (mantissa exponent : Int) : List Char :=
  (toString mantissa).toList ++ if exponent = 0 then [] else 'e' :: (toString exponent).toList

mutual

/-- A document at a depth. -/
def write (depth : Nat) : Json → List Char
  | .null => ['n', 'u', 'l', 'l']
  | .bool true => ['t', 'r', 'u', 'e']
  | .bool false => ['f', 'a', 'l', 's', 'e']
  | .number mantissa exponent => numberText mantissa exponent
  | .text s => quoteText s.toList
  | .list [] => ['[', ']']
  | .list (item :: items) =>
    '[' :: newLine (depth + 1) ++ write (depth + 1) item ++ writeItems (depth + 1) items ++
      newLine depth ++ [']']
  | .table [] => ['\x7b', '\x7d']
  | .table ((k, v) :: fields) =>
    '\x7b' :: newLine (depth + 1) ++ quoteText k.toList ++ [':', ' '] ++ write (depth + 1) v ++
      writeFields (depth + 1) fields ++ newLine depth ++ ['\x7d']

/-- The items after the first. -/
def writeItems (depth : Nat) : List Json → List Char
  | [] => []
  | item :: items => ',' :: newLine depth ++ write depth item ++ writeItems depth items

/-- The entries after the first. -/
def writeFields (depth : Nat) : List (String × Json) → List Char
  | [] => []
  | (k, v) :: fields =>
    ',' :: newLine depth ++ quoteText k.toList ++ [':', ' '] ++ write depth v ++
      writeFields depth fields

end

/-- A document as text. -/
def pretty (j : Json) : String := String.ofList (write 0 j)

end NodePools.Json
