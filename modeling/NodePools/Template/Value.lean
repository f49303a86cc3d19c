import NodePools.Cluster

/-!
# Values in templates

What an expression can stand for while a template is rendered: the data of the
context, the cluster and its pools, and what the operations on them give.

Most values are what they hold.  Some are told apart even where they hold the
same: an undefined value, a result that is not a number, and the values of a
table seen at some moment carry a mark, and a stream and a loop are known by the
place where the rendering keeps their state.
-/

namespace NodePools.Template

/-- Which part of a table is looked at. -/
inductive ViewKind where
  | keys
  | values
  | items
deriving DecidableEq

/-- Why there is no value: in words, and if a subscript was not found, what
stands behind these words. -/
structure Absence (α : Type) where
  text : String
  subscript : Option α
  /-- Using it fails.  A choice without alternative leaves behind one that may be
  used as if it were empty. -/
  strict : Bool
  mark : Nat

/-- A value. -/
inductive Value where
  | undefined (why : Absence Value)
  | null
  | bool (b : Bool)
  | whole (n : Int)
  | real (x : Float)
  /-- A double that is not a number; it equals none, but is found again. -/
  | nan (mark : Nat)
  | text (s : String)
  /-- Text that has been escaped. -/
  | escaped (s : String)
  | moment (m : Moment)
  | bytes (b : Bytes)
  | tuple (items : List Value)
  | list (items : List Value)
  | table (entries : List (Value × Value))
  | view (kind : ViewKind) (entries : List (Value × Value)) (mark : Nat)
  /-- The whole numbers from a start by steps up to a stop. -/
  | range (start step stop : Int)
  /-- Values without order, none of them twice. -/
  | group (frozen : Bool) (items : List Value)
  /-- The bounds of a part of a sequence. -/
  | slice (start stop step : Value)
  | strategy (s : DiscountStrategy)
  | pool (p : NodePool)
  | cluster (c : Cluster)
  /-- Items given one after the other, each of them once. -/
  | stream (typeName : String) (place : Nat)
  /-- What a loop knows of itself. -/
  | loop (place : Nat)
  | method (receiver : Value) (name : String)
  | function (name : String)
  /-- The template itself. -/
  | itself

namespace Value

instance : Inhabited Value := ⟨.null⟩

/-- A double as a value of the context. -/
def ofDouble (x : Float) : Value := if x.isNaN then .nan 0 else .real x

mutual

/-- A datum as a value. -/
def ofDatum : Datum → Value
  | .null => .null
  | .bool b => .bool b
  | .whole n => .whole n
  | .real x => ofDouble x
  | .text s => .text s
  | .bytes b => .bytes b
  | .moment m => .moment m
  | .list items => .list (ofItems items)
  | .table fields => .table (ofFields fields)

/-- The items of a list as values. -/
def ofItems : List Datum → List Value
  | [] => []
  | d :: rest => ofDatum d :: ofItems rest

/-- The entries of a table as values. -/
def ofFields : List (String × Datum) → List (Value × Value)
  | [] => []
  | (k, d) :: rest => (.text k, ofDatum d) :: ofFields rest

end

/-- Whether a value is undefined. -/
def isUndefined : Value → Bool
  | .undefined _ => true
  | _ => false

/-- The name of a value's type, as it stands in the texts of faults. -/
def typeName : Value → String
  | .undefined why => if why.strict then "StrictUndefined" else "Undefined"
  | .null => "NoneType"
  | .bool _ => "bool"
  | .whole _ => "int"
  | .real _ | .nan _ => "float"
  | .text _ => "str"
  | .escaped _ => "Markup"
  | .moment (.date _) => "datetime.date"
  | .moment (.clock _) => "datetime.time"
  | .moment (.both ..) => "datetime.datetime"
  | .bytes _ => "bytes"
  | .tuple _ => "tuple"
  | .list _ => "list"
  | .table _ => "dict"
  | .view .keys .. => "dict_keys"
  | .view .values .. => "dict_values"
  | .view .items .. => "dict_items"
  | .range .. => "range"
  | .group true _ => "frozenset"
  | .group false _ => "set"
  | .slice .. => "slice"
  | .strategy _ => "DiscountStrategy"
  | .pool _ => "NodePool"
  | .cluster _ => "Cluster"
  | .stream name _ => name
  | .loop _ => "LoopContext"
  | .method .. => "builtin_function_or_method"
  | .function _ => "type"
  | .itself => "TemplateReference"

/-- How a value's type is named where something is missing from it. -/
def ownerName : Value → String
  | .null => "None"
  | .escaped _ => "markupsafe.Markup object"
  | .strategy _ => "nodeform.constants.DiscountStrategy object"
  | .pool _ => "nodeform.models.NodePool object"
  | .cluster _ => "nodeform.models.Cluster object"
  | .loop _ => "jinja2.runtime.LoopContext object"
  | .itself => "jinja2.runtime.TemplateReference object"
  | v => v.typeName ++ " object"

/-- The text of a value that is a text. -/
def text? : Value → Option String
  | .text s | .escaped s => some s
  | .strategy s => some s.name
  | _ => none

/-- The number that a value is, a truth value counting as zero or one. -/
def number? : Value → Option Number
  | .bool b => some (.whole (if b then 1 else 0))
  | .whole n => some (.whole n)
  | .real x => some (.real x)
  | .nan _ => some (.real Decimal.notANumber)
  | _ => none

/-- A whole number that a value is, truth values included. -/
def wholeNumber? (v : Value) : Option Int :=
  match v.number? with
  | some (.whole n) => some n
  | _ => none

/-- Whether a whole number can count items: it has sixty-four bits. -/
def canCount (n : Int) : Bool := -(Int.pow 2 63) ≤ n && n < Int.pow 2 63

/-- How many numbers a range holds. -/
def rangeSize (start step stop : Int) : Nat :=
  if 0 < step then (Int.fdiv (stop - start + step - 1) step).toNat
  else if step < 0 then (Int.fdiv (start - stop - step - 1) (-step)).toNat
  else 0

/-- Whether a whole number is one of those from a start by steps. -/
def isInRange (start step stop n : Int) : Bool :=
  step ≠ 0 && Int.emod (n - start) step == 0 &&
    0 ≤ Int.tdiv (n - start) step && Int.tdiv (n - start) step < rangeSize start step stop

/-- The items of a view. -/
def viewItems (kind : ViewKind) (entries : List (Value × Value)) : List Value :=
  match kind with
  | .keys => entries.map Prod.fst
  | .values => entries.map Prod.snd
  | .items => entries.map fun (k, v) => .tuple [k, v]

/-- Each character of a text as a text. -/
def charTexts (s : String) : List Value := s.toList.map fun c => .text (String.singleton c)

/-- The escaped form of a text for markup. -/
def escapeText (s : String) : String :=
  String.ofList (s.toList.flatMap fun c =>
    if c = '&' then ['&', 'a', 'm', 'p', ';']
    else if c = '<' then ['&', 'l', 't', ';']
    else if c = '>' then ['&', 'g', 't', ';']
    else if c = '\'' then ['&', '#', '3', '9', ';']
    else if c = '"' then ['&', '#', '3', '4', ';']
    else [c])

/-- A text that is escaped if another value is. -/
def likeText (v : Value) (s : String) : Value :=
  match v with
  | .escaped _ => .escaped s
  | _ => .text s

/-- Whether two values are one and the same, where this is more than to be
equal. -/
def identical : Value → Value → Bool
  | .undefined a, .undefined b => a.mark == b.mark
  | .nan a, .nan b => a == b
  | .view _ _ a, .view _ _ b => a == b
  | .stream _ a, .stream _ b => a == b
  | .loop a, .loop b => a == b
  | _, _ => false

end Value
end NodePools.Template
