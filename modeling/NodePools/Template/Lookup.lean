import NodePools.Template.Arithmetic

/-!
# Members and items

A name behind a point is looked up among the members of a value first and then
among its items; a subscript the other way around.  What is found in neither
place is undefined.  Tables, texts and lists have their methods as members, so
a key of that name is reached by subscript only.

There are more members than a meaning is given to here (`isLeftOutMember`), those
with two underscores at each end of the name among them, which every value has.
-/

namespace NodePools.Template.Value

/-- The methods of tables. -/
def tableMethods : List String :=
  ["clear", "copy", "fromkeys", "get", "items", "keys", "pop", "popitem", "setdefault", "update",
    "values"]

/-- The methods of lists. -/
def listMethods : List String :=
  ["append", "clear", "copy", "count", "extend", "index", "insert", "pop", "remove", "reverse",
    "sort"]

/-- The methods of tuples. -/
def tupleMethods : List String := ["count", "index"]

/-- The methods that all sets have. -/
def setMethods : List String :=
  ["copy", "difference", "intersection", "isdisjoint", "issubset", "issuperset",
    "symmetric_difference", "union"]

/-- The methods of sets that can be changed. -/
def changingSetMethods : List String :=
  ["add", "clear", "difference_update", "discard", "intersection_update", "pop", "remove",
    "symmetric_difference_update", "update"]

/-- The methods of texts. -/
def textMethods : List String :=
  ["capitalize", "casefold", "center", "count", "encode", "endswith", "expandtabs", "find",
    "format", "format_map", "index", "isalnum", "isalpha", "isascii", "isdecimal", "isdigit",
    "isidentifier", "islower", "isnumeric", "isprintable", "isspace", "istitle", "isupper", "join",
    "ljust", "lower", "lstrip", "maketrans", "partition", "removeprefix", "removesuffix",
    "replace", "rfind", "rindex", "rjust", "rpartition", "rsplit", "rstrip", "split", "splitlines",
    "startswith", "strip", "swapcase", "title", "translate", "upper", "zfill"]

/-- The methods that whole numbers and doubles share. -/
def numberMethods : List String := ["as_integer_ratio", "conjugate"]

/-- Whether a name has two underscores at each end. -/
def isReservedName (name : String) : Bool :=
  Text.beginsWith ['_', '_'] name.toList && Text.finishesWith ['_', '_'] name.toList

/-- Whether a value may have a member of a name to which no meaning is given here.  Of the
members that begin with an underscore only some are there, and all are left out. -/
def isLeftOutMember (v : Value) (name : String) : Bool :=
  isReservedName name ||
    match v with
    | .moment _ | .bytes _ => true
    | .undefined _ =>
      Text.beginsWith "_undefined_".toList name.toList || name == "_fail_with_undefined_error"
    | .strategy _ => Text.beginsWith ['_'] name.toList
    | .loop _ => Text.beginsWith ['_'] name.toList || name == "cycle" || name == "changed"
    | .escaped _ => name == "escape" || name == "striptags" || name == "unescape"
    | .view .. => name == "mapping"
    | .stream .. =>
      name == "close" || name == "send" || name == "throw" || Text.beginsWith "gi_".toList name.toList
    | .function "dict" => tableMethods.contains name
    | .function "range" => tupleMethods.contains name || ["start", "step", "stop"].contains name
    | .function "cycler" => ["current", "next", "reset"].contains name
    | _ => false

/-- A method, if the name is among those given. -/
def methodAmong (names : List String) (v : Value) (name : String) : Option Value :=
  if names.contains name then some (.method v name) else none

/-- A field of a pool. -/
def poolMember? (p : NodePool) (name : String) : Option Value :=
  if name = "name" then some (.text p.name)
  else if name = "profile" then some (.text p.profile)
  else if name = "instance_type" then some (.text p.instanceType)
  else if name = "discount_strategy" then
    some (match p.discountStrategy with
      | .named s => .text s
      | s => .strategy s)
  else if name = "min_size" then some (.whole p.minSize)
  else if name = "max_size" then some (.whole p.maxSize)
  else if name = "is_legacy" then some (.bool p.isLegacy)
  else methodAmong ["from_dict"] (.pool p) name

/-- A field of a cluster. -/
def clusterMember? (c : Cluster) (name : String) : Option Value :=
  if name = "id" then some (.text c.id)
  else if name = "region" then some (.text c.region)
  else if name = "node_pools" then some (.tuple (c.pools.map .pool))
  else if name = "node_pool_names" then some (.group true (c.poolNames.map .text))
  else methodAmong ["from_dict"] (.cluster c) name

/-- What a loop tells about itself. -/
def loopMember? (place : Nat) (l : LoopState) (name : String) : Eval (Option Value) := do
  let reached : Int := l.reached
  if name = "index0" then return some (.whole (reached - 1))
  else if name = "index" then return some (.whole reached)
  else if name = "first" then return some (.bool (l.reached == 1))
  else if name = "length" then return some (.whole (← loopSize place))
  else if name = "revindex" then return some (.whole ((← loopSize place : Nat) - reached + 1))
  else if name = "revindex0" then return some (.whole ((← loopSize place : Nat) - reached))
  else if name = "last" then return some (.bool (← lookAhead place l).isNone)
  else if name = "depth" then return some (.whole 1)
  else if name = "depth0" then return some (.whole 0)
  else if name = "previtem" then
    if l.reached == 1 then return some (← missing "there is no previous item")
    else return l.previous
  else if name = "nextitem" then
    match ← lookAhead place l with
    | some v => return some v
    | none => return some (← missing "there is no next item")
  else return none

/-- A member of a value that is a number. -/
def numberMember? (v : Value) (n : Number) (name : String) : Option Value :=
  match n with
  | .whole k =>
    if name = "real" || name = "numerator" then some (.whole k)
    else if name = "imag" then some (.whole 0)
    else if name = "denominator" then some (.whole 1)
    else methodAmong (["bit_count", "bit_length", "from_bytes", "to_bytes"] ++ numberMethods) v name
  | .real _ =>
    if name = "real" then some v
    else if name = "imag" then some (.real 0)
    else methodAmong (["fromhex", "hex", "is_integer"] ++ numberMethods) v name

/-- A member of a value, if it has one of that name. -/
def member? (v : Value) (name : String) : Eval (Option Value) :=
  if v.isLeftOutMember name then unavailable s!"member {Text.quoted name}"
  else match v with
  | .undefined why => throw (.missing why)
  | .table _ => pure (methodAmong tableMethods v name)
  | .list _ => pure (methodAmong listMethods v name)
  | .tuple _ => pure (methodAmong tupleMethods v name)
  | .view .values .. => pure none
  | .view .. => pure (methodAmong ["isdisjoint"] v name)
  | .group frozen _ =>
    pure (methodAmong (if frozen then setMethods else setMethods ++ changingSetMethods) v name)
  | .pool p => pure (poolMember? p name)
  | .cluster c => pure (clusterMember? c name)
  | .loop place => do
    match ← loopAt place with
    | some l => loopMember? place l name
    | none => return none
  | .range start step stop =>
    pure (if name = "start" then some (.whole start)
      else if name = "stop" then some (.whole stop)
      else if name = "step" then some (.whole step)
      else methodAmong tupleMethods v name)
  | .strategy s =>
    pure (if name = "value" then some (.text s.name)
      else if name = "name" then some (.text (strategyConstant s))
      else methodAmong textMethods v name)
  | v =>
    match v.text? with
    | some _ => pure (methodAmong textMethods v name)
    | none =>
      match v.number? with
      | some n => pure (numberMember? v n name)
      | none => pure none

/-- A bound of a slice: nothing or a whole number. -/
def bound (v : Value) : Eval (Option Int) :=
  match v with
  | .null => pure none
  | v =>
    match v.wholeNumber? with
    | some n => pure (some n)
    | none => typeFault "slice indices must be integers or None"

/-- A bound counted from the front and held between two limits. -/
def clamp (low high size n : Int) : Int :=
  let n := if n < 0 then n + size else n
  if n < low then low else if high < n then high else n

/-- The places from which to which, the latter excluded, a slice goes in a sequence
of a given size, and its step, which is not zero. -/
structure Slice where
  start : Int
  stop : Int
  step : Int

/-- A slice of a sequence of a given size. -/
def Slice.of (size : Nat) (start stop : Option Int) (step : Int) : Slice :=
  let size : Int := size
  let (low, high) := if step < 0 then (-1, size - 1) else (0, size)
  { start := (start.map (clamp low high size)).getD (if step < 0 then high else low)
    stop := (stop.map (clamp low high size)).getD (if step < 0 then low else high)
    step := step }

/-- The places of a slice in order. -/
def Slice.places (s : Slice) : List Nat :=
  (List.range (rangeSize s.start s.step s.stop)).map fun (i : Nat) =>
    (s.start + (i : Int) * s.step).toNat

/-- The part of a sequence of a given size that three bounds stand for. -/
def sliceOf (size : Nat) (start stop step : Value) : Eval Slice := do
  let step := (← step.bound).getD 1
  if step = 0 then throw (.fault ⟨.value, "slice step cannot be zero"⟩)
  let start ← start.bound
  let stop ← stop.bound
  return Slice.of size start stop step

/-- A part of a list. -/
def Slice.cut {α : Type} (s : Slice) (items : List α) : List α :=
  let items := items.toArray
  s.places.filterMap fun i => items[i]?

/-- A part of a sequence. -/
def cutOut (v start stop step : Value) : Eval Value := do
  match v with
  | .undefined why => throw (.missing why)
  | .list items => return .list ((← sliceOf items.length start stop step).cut items)
  | .tuple items => return .tuple ((← sliceOf items.length start stop step).cut items)
  | .range first stride last =>
    let s ← sliceOf (rangeSize first stride last) start stop step
    return .range (first + s.start * stride) (stride * s.step) (first + s.stop * stride)
  | .table _ => typeFault "unhashable type: 'slice'"
  | v =>
    match v.text? with
    | some s =>
      let cs := s.toList
      return v.likeText (String.ofList ((← sliceOf cs.length start stop step).cut cs))
    | none => typeFault s!"'{v.typeName}' object is not subscriptable"

/-- The place that an index stands for in a sequence, counted from the end if it
is negative. -/
def placeOf? (size : Nat) (index : Int) : Option Nat :=
  let i := if index < 0 then index + size else index
  if 0 ≤ i ∧ i < size then some i.toNat else none

/-- The outcome of an evaluation, nothing if it fails for the type of a value. -/
def unlessTypeFault (e : Eval Value) : Eval (Option Value) :=
  tryCatch (some <$> e) fun
    | .fault f => if f.kind = .type then pure none else throw (.fault f)
    | e => throw e

/-- An item of a value, if it has one there. -/
def item? (v subscript : Value) : Eval (Option Value) :=
  match v, subscript with
  | .undefined why, _ => throw (.missing why)
  | v, .slice start stop step => unlessTypeFault (v.cutOut start stop step)
  | .table entries, subscript => do
    match ← unhashable? subscript with
    | some _ => return none
    | none => lookup? subscript entries
  | v, subscript =>
    match subscript.wholeNumber? with
    | none => pure none
    | some index =>
      match v with
      | .list items | .tuple items =>
        pure ((placeOf? items.length index).bind fun i => items[i]?)
      | .range start step stop =>
        pure ((placeOf? (rangeSize start step stop) index).map fun (i : Nat) =>
          .whole (start + (i : Int) * step))
      | v =>
        pure (v.text?.bind fun s =>
          let cs := s.toList
          ((placeOf? cs.length index).bind fun i => cs[i]?).map fun c =>
            v.likeText (String.singleton c))

/-- What stands for a part that is not there. -/
def absent (v subscript : Value) : Eval Value := do
  match subscript.text? with
  | some name => missing s!"{Text.quoted v.ownerName} has no attribute {Text.quoted name}"
  | none => return .undefined ⟨v.ownerName, some subscript, true, ← newMark⟩

/-- What a name behind a point stands for. -/
def member (v : Value) (name : String) : Eval Value := do
  match ← v.member? name with
  | some w => return w
  | none =>
    match ← v.item? (.text name) with
    | some w => return w
    | none => v.absent (.text name)

/-- What a subscript stands for. -/
def item (v subscript : Value) : Eval Value := do
  match ← v.item? subscript with
  | some w => return w
  | none =>
    match subscript.text? with
    | some name =>
      match ← v.member? name with
      | some w => return w
      | none => v.absent subscript
    | none => v.absent subscript

/-- What a bare subscript gives: a part of a sequence must be there. -/
def partOrItem (v subscript : Value) : Eval Value :=
  match subscript with
  | .slice start stop step => v.cutOut start stop step
  | subscript => v.item subscript

/-- The name that stands for nothing: what it would be is unknown. -/
def unknownName (name : String) : Eval Value := missing s!"{Text.quoted name} is undefined"

end NodePools.Template.Value
