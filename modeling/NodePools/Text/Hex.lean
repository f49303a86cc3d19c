import NodePools.Text.Utf8

/-!
# Bytes in hexadecimal

Two lower-case digits a byte.
-/

namespace NodePools.Text.Hex

/-- A hexadecimal digit. -/
def digit (n : Nat) : Char := Nat.digitChar (n % 16)

/-- The value of a hexadecimal digit of either case. -/
def digit? (c : Char) : Option Nat :=
  if '0' ≤ c ∧ c ≤ '9' then some (c.toNat - '0'.toNat)
  else if 'a' ≤ c ∧ c ≤ 'f' then some (c.toNat - 'a'.toNat + 10)
  else if 'A' ≤ c ∧ c ≤ 'F' then some (c.toNat - 'A'.toNat + 10)
  else none

/-- The digits of a byte sequence. -/
def encode (bytes : Bytes) : String :=
  String.ofList (bytes.flatMap fun b => [digit (b.toNat / 16), digit b.toNat])

/-- The bytes that pairs of digits stand for. -/
def decodeChars : List Char → Option Bytes
  | [] => some []
  | [_] => none
  | a :: b :: rest =>
    match digit? a, digit? b, decodeChars rest with
    | some x, some y, some bytes => some (UInt8.ofNat (x * 16 + y) :: bytes)
    | _, _, _ => none

/-- The bytes that a text of digits stands for. -/
def decode? (s : String) : Option Bytes := decodeChars s.toList

end NodePools.Text.Hex
