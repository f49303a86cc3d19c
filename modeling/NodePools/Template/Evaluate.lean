import NodePools.Template.Constant
import NodePools.Template.Program

/-!
# Evaluating expressions

An expression is evaluated from the left to the right.  A name whose place is empty
stands for an undefined value, which fails only where it is used.
-/

namespace NodePools.Template

/-- The names that stand for functions everywhere. -/
def globalNames : List String := ["range", "dict", "lipsum", "cycler", "joiner", "namespace"]

/-- The value of a name in the context, or a global one. -/
def contextValue? (name : String) : Eval (Option Value) := do
  match Fields.get? name (← read).context with
  | some v => return some v
  | none => return if globalNames.contains name then some (.function name) else none

/-- The value that is kept at a place. -/
def slotValue? (slot : Nat) : Eval (Option Value) := return ((← get).slots[slot]?).join

/-- Keeps a value at a place, or nothing. -/
def setSlot (slot : Nat) (v : Option Value) : Eval Unit :=
  modify fun s => { s with slots := s.slots.setIfInBounds slot v }

/-- Does what is done for one place where a scope is entered. -/
def Entry.run : Entry → Eval Unit
  | .fromContext slot name => do setSlot slot (← contextValue? name)
  | .copy slot source => do setSlot slot (← slotValue? source)
  | .clear slot => setSlot slot none
  | .put slot v => setSlot slot (some v)

namespace Value

/-- What a choice without alternative leaves if its test fails. -/
def leftOut (line : Nat) : Eval Value := do
  return .undefined ⟨s!"the inline if-expression on line {line} evaluated to false and no else " ++
    "section was defined.", none, false, ← newMark⟩

/-- The failure of a filter or a test that there is not. -/
def unknownRule {α : Type} (kind name : String) (args : Arguments) : Eval α :=
  if args.named.isEmpty then throw (.refused s!"No {kind} named {Text.quoted name} found.")
  else typeFault s!"{kind} {Text.quoted name} takes no named arguments"

/-- Applies the filter of a name. -/
def applyFilter (name : String) (v : Value) (args : Arguments) : Eval Value :=
  match filter? name with
  | some apply => apply v args
  | none =>
    if leftOutFilters.contains name then unavailable s!"filter {Text.quoted name}"
    else unknownRule "filter" name args

/-- Asks the test of a name. -/
def askTest (name : String) (v : Value) (args : Arguments) : Eval Bool :=
  if knowsTest name then ask id name v args else unknownRule "test" name args

end Value

mutual

/-- The value of an expression. -/
def eval : Expr Slot → Eval Value
  | .const v => pure v
  | .broken f => throw (.fault f)
  | .name n => do
    match ← slotValue? n.index with
    | some v => return v
    | none => Value.unknownName n.name
  | .tuple items => return .tuple (← evalAll items)
  | .list items => return .list (← evalAll items)
  | .table entries => do
    return .table (← (← evalEntries entries).foldlM Value.addEntry [])
  | .member e name => do (← eval e).member name
  | .item e subscript => do
    let v ← eval e
    v.partOrItem (← eval subscript)
  | .slice start stop step => do
    let start ← eval start
    let stop ← eval stop
    return .slice start stop (← eval step)
  | .call e args named => do
    let v ← eval e
    let placed ← evalAll args
    v.call ⟨placed, lastNamed (← evalNamed named)⟩
  | .filter e name args named _ => do
    let v ← eval e
    let placed ← evalAll args
    Value.applyFilter name v ⟨placed, lastNamed (← evalNamed named)⟩
  | .test e name args named _ => do
    let v ← eval e
    let placed ← evalAll args
    return .bool (← Value.askTest name v ⟨placed, lastNamed (← evalNamed named)⟩)
  | .negate e => do (← eval e).negate
  | .plus e => do (← eval e).plus
  | .not e => do return .bool (!(← (← eval e).truthy))
  | .binary op a b => do
    let v ← eval a
    Value.binary op v (← eval b)
  | .concat parts => do
    let values ← evalAll parts
    return .text (String.join (← values.mapM Value.plain))
  | .compare first others => do
    let v ← eval first
    return .bool (← evalChain v others)
  | .and a b => do
    let v ← eval a
    if ← v.truthy then eval b else return v
  | .or a b => do
    let v ← eval a
    if ← v.truthy then return v else eval b
  | .choose test yes no => do
    if ← (← eval test).truthy then eval yes else eval no
  | .chooseOnly test yes line => do
    if ← (← eval test).truthy then eval yes else Value.leftOut line

/-- The values of several expressions, from the first to the last. -/
def evalAll : List (Expr Slot) → Eval (List Value)
  | [] => pure []
  | e :: rest => do
    let v ← eval e
    return v :: (← evalAll rest)

/-- The values of named arguments. -/
def evalNamed : List (String × Expr Slot) → Eval (List (String × Value))
  | [] => pure []
  | (name, e) :: rest => do
    let v ← eval e
    return (name, v) :: (← evalNamed rest)

/-- The entries of a table, each key before its value. -/
def evalEntries : List (Expr Slot × Expr Slot) → Eval (List (Value × Value))
  | [] => pure []
  | (k, e) :: rest => do
    let key ← eval k
    let value ← eval e
    return (key, value) :: (← evalEntries rest)

/-- Whether a value and the following ones stand in the given relations, one after the
other up to the first that does not hold. -/
def evalChain (v : Value) : List (Comparison × Expr Slot) → Eval Bool
  | [] => pure true
  | (c, e) :: rest => do
    let w ← eval e
    if ← Value.compare c v w then evalChain w rest else return false

end

/-- So many items and what is left, fewer if there are no more. -/
def Feed.takeItems : Nat → Feed → Eval (List Value × Feed)
  | 0, f => pure ([], f)
  | n + 1, f => do
    match ← f.next with
    | none => return ([], f)
    | some (v, f) =>
      let (taken, f) ← takeItems n f
      return (v :: taken, f)

/-- The items of a value, which must have so many. -/
def Value.exactItems (v : Value) (n : Nat) : Eval (List Value) := do
  let (items, f) ← Feed.takeItems n (← v.feed)
  if items.length < n then
    throw (.fault ⟨.value, s!"not enough values to unpack (expected {n}, got {items.length})"⟩)
  else
    match ← f.next with
    | some _ => throw (.fault ⟨.value, s!"too many values to unpack (expected {n})"⟩)
    | none => return items

namespace Target

mutual

/-- Whether a member is assigned. -/
def hasMember : Target Nat → Bool
  | .name _ => false
  | .member .. => true
  | .tuple targets => anyHasMember targets

/-- Whether one of several targets assigns a member. -/
def anyHasMember : List (Target Nat) → Bool
  | [] => false
  | t :: rest => hasMember t || anyHasMember rest

end

/-- Fails if a member is to be assigned. -/
def requireNames (t : Target Nat) : Eval Unit :=
  if t.hasMember then throw (.refused "cannot assign attribute on non-namespace object")
  else pure ()

mutual

/-- Assigns a value: to several targets item by item. -/
def assign (v : Value) : Target Nat → Eval Unit
  | .name slot => setSlot slot (some v)
  | .member .. => pure ()
  | .tuple targets => do assignAll (← v.exactItems targets.length) targets

/-- Assigns values to as many targets. -/
def assignAll (items : List Value) : List (Target Nat) → Eval Unit
  | [] => pure ()
  | t :: rest =>
    match items with
    | [] => pure ()
    | v :: items => do
      assign v t
      assignAll items rest

end

mutual

/-- The value that has been assigned. -/
def value : Target Nat → Eval Value
  | .name slot => return (← slotValue? slot).getD .null
  | .member .. => pure .null
  | .tuple targets => return .tuple (← values targets)

/-- The values that have been assigned. -/
def values : List (Target Nat) → Eval (List Value)
  | [] => pure []
  | t :: rest => return (← value t) :: (← values rest)

end

end Target
end NodePools.Template
