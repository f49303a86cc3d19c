import NodePools.Decimal.Reader
import NodePools.Fault
import NodePools.Fields
import NodePools.Moment
import NodePools.Number
import NodePools.Text.Hex
import NodePools.Text.Quoted

/-!
# Untyped values

A datum is what a document or a remote service hands over before it is known
what it should be: nothing, a truth value, a number, a text, bytes, a moment, a
list, or a table with ordered keys.  The readers below take a datum for what is
expected and say how it fails to be that.
-/

namespace NodePools

/-- A value of a document or of a service's answer. -/
inductive Datum where
  | null
  | bool (b : Bool)
  | whole (n : Int)
  | real (x : Float)
  | text (s : String)
  | bytes (b : Bytes)
  | moment (m : Moment)
  | list (items : List Datum)
  | table (fields : List (String × Datum))

namespace Datum

instance : Inhabited Datum := ⟨.null⟩

/-- A number as a datum. -/
def ofNumber : Number → Datum
  | .whole n => .whole n
  | .real x => .real x

/-- The name of a datum's type, as it stands in the texts of faults. -/
def typeName : Datum → String
  | .null => "NoneType"
  | .bool _ => "bool"
  | .whole _ => "int"
  | .real _ => "float"
  | .text _ => "str"
  | .bytes _ => "bytes"
  | .moment (.date _) => "datetime.date"
  | .moment (.clock _) => "datetime.time"
  | .moment (.both ..) => "datetime.datetime"
  | .list _ => "list"
  | .table _ => "dict"

/-- Whether a datum counts as given: not nothing, not false, not zero, not
empty. -/
def truthy : Datum → Bool
  | .null => false
  | .bool b => b
  | .whole n => n != 0
  | .real x => x != 0
  | .text s => !s.isEmpty
  | .bytes b => !b.isEmpty
  | .moment _ => true
  | .list items => !items.isEmpty
  | .table fields => !fields.isEmpty

/-- Bytes between quotes, those outside printable ASCII in hexadecimal. -/
def quotedBytes (b : Bytes) : String :=
  let mark := Text.quoteMark (b.map fun x => Char.ofNat x.toNat)
  let one (x : UInt8) : List Char :=
    let c := Char.ofNat x.toNat
    if x.toNat < 0x7f then Text.quoteChar mark c else ['\\', 'x'] ++ Text.hexPadded 2 x.toNat
  String.ofList (['b', mark] ++ b.flatMap one ++ [mark])

mutual

/-- A datum as it stands inside a list or a table: texts are quoted. -/
def shown : Datum → String
  | .null => "None"
  | .bool b => if b then "True" else "False"
  | .whole n => toString n
  | .real x => Decimal.text x
  | .text s => Text.quoted s
  | .bytes b => quotedBytes b
  | .moment m => m.label
  | .list items => "[" ++ String.intercalate ", " (shownItems items) ++ "]"
  | .table fields => "\x7b" ++ String.intercalate ", " (shownFields fields) ++ "\x7d"

/-- The items of a list, each as it stands there. -/
def shownItems : List Datum → List String
  | [] => []
  | d :: rest => d.shown :: shownItems rest

/-- The entries of a table, each as it stands there. -/
def shownFields : List (String × Datum) → List String
  | [] => []
  | (k, d) :: rest => (Text.quoted k ++ ": " ++ d.shown) :: shownFields rest

end

/-- A datum by itself: a text stands for itself, a moment has its plain text. -/
def plain : Datum → String
  | .text s => s
  | .moment m => m.text
  | d => d.shown

mutual

/-- Whether no whole number in a datum has too many digits to be written. -/
def canWrite : Datum → Bool
  | .whole n => Decimal.canWrite n
  | .list items => canWriteItems items
  | .table fields => canWriteFields fields
  | _ => true

/-- Whether all items of a list can be written. -/
def canWriteItems : List Datum → Bool
  | [] => true
  | d :: rest => d.canWrite && canWriteItems rest

/-- Whether all entries of a table can be written. -/
def canWriteFields : List (String × Datum) → Bool
  | [] => true
  | (_, d) :: rest => d.canWrite && canWriteFields rest

end

/-- A datum as a text of its own. -/
def written (d : Datum) : Except Fault String :=
  if d.canWrite then .ok d.plain else .error .tooManyDigits

/-- The whole number a datum stands for: a double loses its decimals, a text is
read. -/
def toInt : Datum → Except Fault Int
  | .bool b => .ok (if b then 1 else 0)
  | .whole n => .ok n
  | .real x =>
    match Decimal.Binary64.ofFloat x with
    | .notANumber => .error ⟨.value, "there is no whole number for what is not a number"⟩
    | .infinite _ => .error ⟨.overflow, "there is no whole number for infinity"⟩
    | .finite negative mantissa exponent =>
      .ok (Decimal.Binary64.truncate negative mantissa exponent)
  | .text s =>
    match Decimal.readInt? s with
    | some n => .ok n
    | none =>
      .error ⟨.value, "not a whole number: " ++ Text.quoted s⟩
  | d => .error ⟨.type,
      s!"a whole number was expected, not {d.typeName}"⟩

/-- The double a datum stands for. -/
def toFloat : Datum → Except Fault Float
  | .bool b => .ok (if b then 1 else 0)
  | .whole n =>
    match Decimal.Binary64.ofInt? n with
    | some x => .ok x
    | none => .error .wholeTooLarge
  | .real x => .ok x
  | .text s =>
    match Decimal.readFloat? s with
    | some x => .ok x
    | none => .error ⟨.value, "not a number: " ++ Text.quoted s⟩
  | d => .error ⟨.type,
      s!"a number was expected, not {d.typeName}"⟩

/-- The entries of a datum that must be a table; `member` is what is asked of it. -/
def entries (member : String) : Datum → Except Fault (Fields Datum)
  | .table fields => .ok fields
  | d => .error (.noMember d.typeName member)

/-- The value under a key of a datum that must be a table, if it is there. -/
def get? (d : Datum) (key : String) : Except Fault (Option Datum) := do
  return Fields.get? key (← d.entries "get")

/-- The value under a key that must be there. -/
def field (d : Datum) (key : String) : Except Fault Datum :=
  match d with
  | .table fields =>
    match Fields.get? key fields with
    | some v => .ok v
    | none => .error ⟨.key, Text.quoted key⟩
  | .list _ => .error ⟨.type, "list indices must be integers or slices, not str"⟩
  | .text _ => .error ⟨.type, "string indices must be integers, not 'str'"⟩
  | d => .error ⟨.type, s!"'{d.typeName}' object is not subscriptable"⟩

/-- The parts one meets walking through a datum: the items of a list, the keys of
a table, the characters of a text, the numbers of bytes. -/
def items : Datum → Except Fault (List Datum)
  | .list items => .ok items
  | .table fields => .ok (fields.map fun e => .text e.1)
  | .text s => .ok (s.toList.map fun c => .text (String.singleton c))
  | .bytes b => .ok (b.map fun x => .whole x.toNat)
  | d => .error (.notIterable d.typeName)

/-- The first item of a datum. -/
def firstItem (d : Datum) : Except Fault Datum :=
  match d with
  | .list (first :: _) => .ok first
  | .list [] => .error .indexOutOfRange
  | .text s =>
    match s.toList with
    | c :: _ => .ok (.text (String.singleton c))
    | [] => .error ⟨.index, "string index out of range"⟩
  | .bytes (x :: _) => .ok (.whole x.toNat)
  | .bytes [] => .error ⟨.index, "index out of range"⟩
  | .table _ => .error ⟨.key, "0"⟩
  | d => .error ⟨.type, s!"'{d.typeName}' object is not subscriptable"⟩

/-- How many parts a datum has. -/
def size (d : Datum) : Except Fault Nat :=
  match d with
  | .list items => .ok items.length
  | .table fields => .ok fields.length
  | .text s => .ok s.length
  | .bytes b => .ok b.length
  | d => .error ⟨.type, s!"object of type '{d.typeName}' has no len()"⟩

/-- The number a datum is, a truth value counting as zero or one. -/
def number? : Datum → Option Number
  | .bool b => some (.whole (if b then 1 else 0))
  | .whole n => some (.whole n)
  | .real x => some (.real x)
  | _ => none

mutual

/-- Whether two data are the same value.  Numbers and truth values are compared
by size, tables without regard to order. -/
def same : Datum → Datum → Bool
  | .null, .null => true
  | .text a, .text b => a == b
  | .bytes a, .bytes b => a == b
  | .moment a, .moment b => a == b
  | .list a, .list b => sameItems a b
  | .table a, .table b => a.length == b.length && sameFields a b
  | a, b =>
    match number? a, number? b with
    | some x, some y => x.same y
    | _, _ => false

/-- Whether two lists hold the same values. -/
def sameItems : List Datum → List Datum → Bool
  | [], [] => true
  | a :: as, b :: bs => same a b && sameItems as bs
  | _, _ => false

/-- Whether every entry of the first table is in the second. -/
def sameFields : List (String × Datum) → List (String × Datum) → Bool
  | [], _ => true
  | (k, a) :: rest, b =>
    (match Fields.get? k b with
      | some v => same a v
      | none => false) && sameFields rest b

end

/-- Fails unless a datum can be a key. -/
def asKey (d : Datum) : Except Fault Unit :=
  match d with
  | .list _ | .table _ => .error ⟨.type, s!"unhashable type: '{d.typeName}'"⟩
  | _ => .ok ()

/-- The text that a failure has whose cause is given by several values: none
stand for no text, one for itself, more for a list in round brackets. -/
def argumentsText : List Datum → String
  | [] => ""
  | [d] => d.plain
  | ds => "(" ++ String.intercalate ", " (shownItems ds) ++ ")"

/-- The files that a fault of the operating system is about, as they stand behind
its text: none, one, or one and another. -/
def filesText : List Datum → String
  | [] | .null :: _ => ""
  | [file] | [file, _] | [file, _, .null] => ": " ++ file.shown
  | file :: _ :: other :: _ => ": " ++ file.shown ++ " -> " ++ other.shown

/-- The text of a fault of the operating system whose cause is given by values: its
number, a text, and the one or two files it is about. -/
def systemText (cause : List Datum) : String :=
  match cause with
  | number :: why :: files =>
    if 3 < files.length then argumentsText cause
    else s!"[Errno {number.plain}] {why.plain}" ++ filesText files
  | cause => argumentsText cause

/-- The number of a fault of the operating system, if it has one. -/
def systemCode? (cause : List Datum) : Option Int :=
  match cause with
  | number :: _ :: files =>
    match number.number? with
    | some (.whole n) => if 3 < files.length then none else some n
    | _ => none
  | _ => none

/-- The numbers of the faults of calls that would block. -/
def blockingCodes : List Int := [11, 114, 115]

/-- The fault of the operating system whose cause is given by values.  Where a call would
block, a number in the place of a file says how much has been done, and is not told. -/
def systemFaultOf (cause : List Datum) : Fault :=
  let code := systemCode? cause
  let fault (told : List Datum) : Fault := ⟨.system code, systemText told⟩
  match cause with
  | number :: why :: done :: _ =>
    if (code.map blockingCodes.contains).getD false then
      match done.number? with
      | some (.whole n) =>
        if -(Int.pow 2 63) ≤ n ∧ n < Int.pow 2 63 then fault [number, why]
        else ⟨.value, "a count is out of range"⟩
      | some (.real _) => ⟨.type, "a count is not a whole number"⟩
      | none => fault cause
    else fault cause
  | _ => fault cause

/-- The fault of a kind whose cause is given by values.  A key that is not there is
quoted, and time that is up is told as the operating system tells its faults. -/
def faultOf (kind : FaultKind) (cause : List Datum) : Fault :=
  match kind, cause with
  | .key, [d] => ⟨.key, d.shown⟩
  | .timeout, cause => ⟨.timeout, systemText cause⟩
  | kind, cause => ⟨kind, argumentsText cause⟩

end Datum
end NodePools
