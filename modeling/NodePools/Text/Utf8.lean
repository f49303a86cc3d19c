/-!
# UTF-8

A text is encoded as one to four bytes a character.  Decoding reads the bytes
from left to right and yields, one after the other, the characters and the
maximal invalid parts: a byte that cannot start a character, or the start of a
character up to the first byte that cannot continue it.  Strict decoding
refuses a text with an invalid part, lenient decoding puts the replacement
character in its place.
-/

namespace NodePools

/-- A sequence of bytes. -/
abbrev Bytes := List UInt8

namespace Text.Utf8

/-- The bytes of one character. -/
def encodeChar (c : Char) : Bytes :=
  let n := c.toNat
  if n < 0x80 then [UInt8.ofNat n]
  else if n < 0x800 then
    [UInt8.ofNat (0xc0 + n / 0x40), UInt8.ofNat (0x80 + n % 0x40)]
  else if n < 0x10000 then
    [UInt8.ofNat (0xe0 + n / 0x1000), UInt8.ofNat (0x80 + n / 0x40 % 0x40),
      UInt8.ofNat (0x80 + n % 0x40)]
  else
    [UInt8.ofNat (0xf0 + n / 0x40000), UInt8.ofNat (0x80 + n / 0x1000 % 0x40),
      UInt8.ofNat (0x80 + n / 0x40 % 0x40), UInt8.ofNat (0x80 + n % 0x40)]

/-- The bytes of a text. -/
def encode (s : String) : Bytes := s.toList.flatMap encodeChar

/-- Why bytes are no character. -/
inductive Defect where
  | badStart
  | badContinuation
  | cutShort
deriving Repr, DecidableEq

/-- What is wrong, in words. -/
def Defect.text : Defect → String
  | .badStart => "invalid start byte"
  | .badContinuation => "invalid continuation byte"
  | .cutShort => "unexpected end of data"

/-- What decoding finds: a character, or a maximal invalid part. -/
inductive Piece where
  | char (c : Char)
  | invalid (bytes : Bytes) (defect : Defect)

/-- A character that has been begun: the bytes read, how many are still to come,
the bounds of the next one, and the value so far.  The bounds keep out
surrogates, overlong forms and code points beyond the last. -/
structure Begun where
  read : Bytes
  missing : Nat
  low : Nat
  high : Nat
  value : Nat

/-- What a byte does at the start of a character. -/
inductive Start where
  | whole (c : Char)
  | begun (b : Begun)
  | invalid

/-- Reads the first byte of a character. -/
def start (byte : UInt8) : Start :=
  let n := byte.toNat
  if n < 0x80 then .whole (Char.ofNat n)
  else if n < 0xc2 then .invalid
  else if n < 0xe0 then .begun ⟨[byte], 1, 0x80, 0xbf, n - 0xc0⟩
  else if n < 0xf0 then
    .begun ⟨[byte], 2, if n = 0xe0 then 0xa0 else 0x80, if n = 0xed then 0x9f else 0xbf, n - 0xe0⟩
  else if n < 0xf5 then
    .begun ⟨[byte], 3, if n = 0xf0 then 0x90 else 0x80, if n = 0xf4 then 0x8f else 0xbf, n - 0xf0⟩
  else .invalid

/-- The pieces of a byte sequence that follows the begun character, if there is
one. -/
def scan : Option Begun → Bytes → List Piece
  | none, [] => []
  | some g, [] => [.invalid g.read .cutShort]
  | none, b :: rest =>
    match start b with
    | .whole c => .char c :: scan none rest
    | .begun g => scan (some g) rest
    | .invalid => .invalid [b] .badStart :: scan none rest
  | some g, b :: rest =>
    if g.low ≤ b.toNat && b.toNat ≤ g.high then
      let value := g.value * 0x40 + (b.toNat - 0x80)
      if g.missing ≤ 1 then .char (Char.ofNat value) :: scan none rest
      else scan (some ⟨g.read ++ [b], g.missing - 1, 0x80, 0xbf, value⟩) rest
    else
      .invalid g.read .badContinuation ::
        match start b with
        | .whole c => .char c :: scan none rest
        | .begun g => scan (some g) rest
        | .invalid => .invalid [b] .badStart :: scan none rest

/-- Where a byte sequence stops being text. -/
structure Undecodable where
  position : Nat
  bytes : Bytes
  defect : Defect
deriving Repr, DecidableEq

/-- Where and why, in words. -/
def Undecodable.text (u : Undecodable) : String :=
  let place :=
    match u.bytes with
    | [b] => "byte 0x" ++ String.ofList [Nat.digitChar (b.toNat / 16), Nat.digitChar (b.toNat % 16)]
        ++ s!" in position {u.position}"
    | bytes => s!"bytes in position {u.position}-{u.position + bytes.length - 1}"
  "'utf-8' codec can't decode " ++ place ++ ": " ++ u.defect.text

/-- Puts the characters of pieces together, `position` bytes into the sequence. -/
def gather (position : Nat) : List Piece → Except Undecodable (List Char)
  | [] => .ok []
  | .invalid bytes defect :: _ => .error ⟨position, bytes, defect⟩
  | .char c :: rest => (gather (position + (encodeChar c).length) rest).map (c :: ·)

/-- The text of a byte sequence without invalid parts. -/
def decode (bytes : Bytes) : Except Undecodable String :=
  (gather 0 (scan none bytes)).map String.ofList

/-- The text of a byte sequence, with the replacement character for each
maximal invalid part. -/
def decodeLossy (bytes : Bytes) : String :=
  String.ofList ((scan none bytes).map fun
    | .char c => c
    | .invalid .. => Char.ofNat 0xfffd)

end Text.Utf8
end NodePools
