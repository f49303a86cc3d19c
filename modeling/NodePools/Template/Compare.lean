import NodePools.Template.Stream
import NodePools.Template.Syntax
import NodePools.Text.Search

/-!
# Comparing values

Numbers and truth values are compared by size, texts by code points, lists and
tuples item by item from the front, and the keys and the entries of tables as sets.
Values of different kinds are different but have no order.

Where items are compared with each other, an item counts as equal to itself, also
if it is not a number or undefined.
-/

namespace NodePools.Template.Value

/-- Whether a pool is equal to another one: a strategy counts by its name. -/
def samePool (p q : NodePool) : Bool :=
  { p with discountStrategy := .named p.discountStrategy.name } ==
    { q with discountStrategy := .named q.discountStrategy.name }

/-- Whether two lists of pools are equal. -/
def samePools (ps qs : List NodePool) : Bool :=
  ps.length == qs.length && (ps.zip qs).all fun (p, q) => samePool p q

/-- The first item that passes a test. -/
def firstOf? {α : Type} (test : α → Eval Bool) : List α → Eval (Option α)
  | [] => pure none
  | a :: rest => do
    if ← test a then return some a else firstOf? test rest

/-- Whether all items pass a test; asking stops at the first that does not. -/
def allOf {α : Type} (test : α → Eval Bool) : List α → Eval Bool
  | [] => pure true
  | a :: rest => do
    if ← test a then allOf test rest else return false

/-- An item equals another one if the two are the same or a test says so. -/
def itemTest (test : Value → Value → Eval Bool) (a b : Value) : Eval Bool :=
  if identical a b then pure true else test a b

mutual

/-- The name of the type that keeps a value from being a key, if there is one:
lists, tables and what is made of them cannot be keys. -/
def unhashable? : Value → Eval (Option String)
  | .undefined why => if why.strict then throw (.missing why) else pure none
  | .list _ => pure (some "list")
  | .table _ => pure (some "dict")
  | .view .keys _ _ => pure (some "dict_keys")
  | .view .items _ _ => pure (some "dict_items")
  | .group false _ => pure (some "set")
  | .slice _ _ _ => pure (some "slice")
  | .tuple items => anyUnhashable? items
  | _ => pure none

/-- The first such name among several values. -/
def anyUnhashable? : List Value → Eval (Option String)
  | [] => pure none
  | v :: rest => do
    match ← unhashable? v with
    | some name => return some name
    | none => anyUnhashable? rest

end

/-- Fails unless a value can be a key. -/
def asKey (v : Value) : Eval Unit := do
  match ← unhashable? v with
  | some name => typeFault s!"unhashable type: '{name}'"
  | none => return ()

mutual

/-- Whether two values are equal. -/
def same : Value → Value → Eval Bool
  | .undefined a, .undefined b => do
    if a.strict then throw (.missing a)
    if b.strict then throw (.missing b)
    return true
  | .undefined a, _ => if a.strict then throw (.missing a) else pure false
  | .null, .null => pure true
  | .moment a, .moment b => pure (a == b)
  | .bytes a, .bytes b => pure (a == b)
  | .tuple as, .tuple bs => sameItems as bs
  | .list as, .list bs => if as.length = bs.length then sameItems as bs else pure false
  | .table as, .table bs => if as.length = bs.length then entriesIn as bs else pure false
  | .view .keys as _, .view .keys bs _ =>
    if as.length = bs.length then keysIn as (viewItems .keys bs) else pure false
  | .view .keys as _, .group _ bs => if as.length = bs.length then keysIn as bs else pure false
  | .view .items as _, .view .items bs _ =>
    if as.length = bs.length then entriesIn as bs else pure false
  | .view .items as _, .group _ bs => if as.length = bs.length then pairsIn as bs else pure false
  | .group _ as, .group _ bs => if as.length = bs.length then itemsIn as bs else pure false
  | .group _ as, .view .keys bs _ =>
    if as.length = bs.length then itemsIn as (viewItems .keys bs) else pure false
  | .group _ as, .view .items bs _ =>
    if as.length = bs.length then itemsIn as (viewItems .items bs) else pure false
  | .view .values _ a, .view .values _ b => pure (a == b)
  | .range a b c, .range x y z =>
    pure (rangeSize a b c == rangeSize x y z &&
      (rangeSize a b c == 0 || (a == x && (rangeSize a b c == 1 || b == y))))
  | .slice a b c, .slice x y z => do
    if ← itemTest (fun _ y => same a y) a x then
      if ← itemTest (fun _ y => same b y) b y then itemTest (fun _ y => same c y) c z
      else return false
    else return false
  | .stream _ a, .stream _ b => pure (a == b)
  | .loop a, .loop b => pure (a == b)
  | .pool a, .pool b => pure (samePool a b)
  | .cluster a, .cluster b =>
    pure (a.id == b.id && a.region == b.region && samePools a.pools b.pools)
  | .method a m, .method b n => if m == n then itemTest (fun _ y => same a y) a b else pure false
  | .function a, .function b => pure (a == b)
  | .itself, .itself => pure true
  | a, b =>
    match b with
    | .undefined why => if why.strict then throw (.missing why) else pure false
    | b =>
      match a.text?, b.text? with
      | some s, some t => pure (s == t)
      | _, _ =>
        match a.number?, b.number? with
        | some x, some y => pure (x.same y)
        | _, _ => pure false

/-- Whether two lists of values are equal. -/
def sameItems : List Value → List Value → Eval Bool
  | [], [] => pure true
  | a :: as, b :: bs => do
    if ← itemTest (fun _ y => same a y) a b then sameItems as bs else return false
  | _, _ => pure false

/-- Whether every one of several values is among others. -/
def itemsIn : List Value → List Value → Eval Bool
  | [], _ => pure true
  | a :: as, others => do
    match ← firstOf? (fun b => itemTest (fun _ y => same a y) a b) others with
    | some _ => itemsIn as others
    | none => return false

/-- Whether every key of a table is among other values. -/
def keysIn : List (Value × Value) → List Value → Eval Bool
  | [], _ => pure true
  | (k, _) :: rest, others => do
    match ← firstOf? (fun b => itemTest (fun _ y => same k y) k b) others with
    | some _ => keysIn rest others
    | none => return false

/-- Whether every entry of a table is in another one. -/
def entriesIn : List (Value × Value) → List (Value × Value) → Eval Bool
  | [], _ => pure true
  | (k, v) :: rest, others => do
    match ← firstOf? (fun e => itemTest (fun _ y => same k y) k e.1) others with
    | some e =>
      if ← itemTest (fun _ y => same v y) v e.2 then entriesIn rest others else return false
    | none => return false

/-- Whether every entry of a table is among other values as a pair. -/
def pairsIn : List (Value × Value) → List Value → Eval Bool
  | [], _ => pure true
  | (k, v) :: rest, others => do
    let found ← firstOf? (fun b => do
      match b with
      | .tuple [x, y] =>
        if ← itemTest (fun _ z => same k z) k x then itemTest (fun _ z => same v z) v y
        else return false
      | _ => return false) others
    match found with
    | some _ => pairsIn rest others
    | none => return false

end

/-- Whether two items are one and the same or equal. -/
def sameItem : Value → Value → Eval Bool := itemTest same

/-- The value under a key of a table. -/
def lookup? (key : Value) (entries : List (Value × Value)) : Eval (Option Value) := do
  return (← firstOf? (fun e => sameItem e.1 key) entries).map Prod.snd

/-- Puts an entry into a table, in its place if its key is there. -/
def putEntry (key value : Value) : List (Value × Value) → Eval (List (Value × Value))
  | [] => pure [(key, value)]
  | (k, v) :: rest => do
    if ← sameItem k key then return (k, value) :: rest
    else return (k, v) :: (← putEntry key value rest)

/-- A table with one more entry. -/
def addEntry (entries : List (Value × Value)) (e : Value × Value) : Eval (List (Value × Value)) := do
  asKey e.1
  putEntry e.1 e.2 entries

/-- Whether one of several values is equal to a given one. -/
def isAmong (v : Value) (others : List Value) : Eval Bool := do
  return (← firstOf? (fun w => sameItem w v) others).isSome

/-- Values without those that are equal to an earlier one.  Whole numbers come in
front, the least first. -/
def distinct (items : List Value) : Eval (List Value) := do
  let kept ← items.foldlM (fun (kept : Array Value) v => do
    asKey v
    if ← isAmong v kept.toList then return kept else return kept.push v) #[]
  let (numbers, others) := kept.toList.partition fun v => v.wholeNumber?.isSome
  let before (a b : Value) : Bool := a.wholeNumber?.getD 0 ≤ b.wholeNumber?.getD 0
  return numbers.mergeSort before ++ others

/-- The name under which an order is asked for, in the texts of faults. -/
def orderSign : Comparison → String
  | .lt => "<"
  | .le => "<="
  | .gt => ">"
  | .ge => ">="
  | .eq => "=="
  | .ne => "!="
  | .isIn => "in"
  | .notIn => "not in"

/-- Whether an order answers a comparison. -/
def answers (c : Comparison) (o : Option Ordering) : Bool :=
  match c, o with
  | .lt, some .lt | .gt, some .gt => true
  | .le, some .lt | .le, some .eq | .ge, some .gt | .ge, some .eq => true
  | _, _ => false

/-- The order of two texts. -/
def textOrder (a b : String) : Ordering :=
  if a < b then .lt else if b < a then .gt else .eq

/-- The fault of asking for an order where there is none. -/
def noOrder {α : Type} (c : Comparison) (a b : Value) : Eval α :=
  typeFault s!"'{orderSign c}' not supported between instances of '{a.typeName}' and '{b.typeName}'"

/-- The items of a value that is compared as a set. -/
def asSet? : Value → Option (List Value)
  | .view .keys entries _ => some (viewItems .keys entries)
  | .view .items entries _ => some (viewItems .items entries)
  | .group _ items => some items
  | _ => none

/-- Whether a set is a part of another one as a comparison asks: the smaller one
must be in the larger one, and not be all of it. -/
def orderedSets (c : Comparison) (as bs : List Value) : Eval Bool :=
  match c with
  | .lt => if as.length < bs.length then itemsIn as bs else pure false
  | .le => if as.length ≤ bs.length then itemsIn as bs else pure false
  | .gt => if bs.length < as.length then itemsIn bs as else pure false
  | _ => if bs.length ≤ as.length then itemsIn bs as else pure false

mutual

/-- Whether two values are in an order. -/
def ordered (c : Comparison) : Value → Value → Eval Bool
  | .undefined why, _ => throw (.missing why)
  | .tuple as, .tuple bs => orderedItems c as bs
  | .list as, .list bs => orderedItems c as bs
  | a, b =>
    match b with
    | .undefined why => throw (.missing why)
    | b =>
      match a.text?, b.text? with
      | some s, some t => pure (answers c (some (textOrder s t)))
      | _, _ =>
        match a.number?, b.number? with
        | some x, some y => pure (answers c (Number.compare? x y))
        | _, _ =>
          match a.asSet?, b.asSet? with
          | some as, some bs => orderedSets c as bs
          | _, _ => noOrder c a b

/-- Whether two lists of values are in an order: that of the first place where
they differ, else that of their lengths. -/
def orderedItems (c : Comparison) : List Value → List Value → Eval Bool
  | [], [] => pure (answers c (some .eq))
  | [], _ :: _ => pure (answers c (some .lt))
  | _ :: _, [] => pure (answers c (some .gt))
  | a :: as, b :: bs => do
    if ← sameItem a b then orderedItems c as bs else ordered c a b

end

/-- Whether a walk through a value meets an item that is equal to a given one. -/
def isMet (v container : Value) : Eval Bool := do
  (← container.feed).walk (fun _ w => do
    let found ← sameItem w v
    return (found, !found)) false

/-- Whether a value is in another one: a text within a text, a key of a table, an
entry of its entries, an item of anything else. -/
def isIn (v container : Value) : Eval Bool := do
  match container with
  | .undefined why => if why.strict then throw (.missing why) else return false
  | .table entries | .view .keys entries _ =>
    asKey v
    return (← lookup? v entries).isSome
  | .view .items entries _ =>
    match v with
    | .tuple [k, x] =>
      asKey k
      match ← lookup? k entries with
      | some w => sameItem w x
      | none => return false
    | _ => return false
  | .group _ items =>
    asKey v
    isAmong v items
  | .range start step stop =>
    match v with
    | .bool _ | .whole _ => return isInRange start step stop (v.wholeNumber?.getD 0)
    | v => isMet v container
  | .tuple items | .list items => isAmong v items
  | .view .values .. | .stream .. | .loop _ | .bytes _ => isMet v container
  | container =>
    match container.text? with
    | some s =>
      match v.text? with
      | some t => return Text.occursIn t.toList s.toList
      | none => typeFault s!"'in <string>' requires string as left operand, not {v.typeName}"
    | none => typeFault s!"argument of type '{container.typeName}' is not iterable"

/-- The answer to a comparison. -/
def compare (c : Comparison) (a b : Value) : Eval Bool :=
  match c with
  | .eq => same a b
  | .ne => return !(← same a b)
  | .isIn => isIn a b
  | .notIn => return !(← isIn a b)
  | c => ordered c a b

end NodePools.Template.Value
