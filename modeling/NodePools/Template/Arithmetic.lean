import NodePools.Template.Placeholder

/-!
# Arithmetic on values

Whole numbers stay exact, also with truth values among them, and one double
makes the result a double.  Quotients are rounded down, and a remainder has the
sign of the divisor.  Sums join texts, lists and tuples, products with whole
numbers repeat them, and a text with a remainder sign behind it is filled in.
-/

namespace NodePools.Template.Value

open NodePools.Decimal

/-- The sign under which an operation is named in the texts of faults. -/
def operatorSign : BinaryOp → String
  | .add => "+"
  | .sub => "-"
  | .mul => "*"
  | .div => "/"
  | .floorDiv => "//"
  | .mod => "%"
  | .pow => "** or pow()"

/-- The fault of an operation that two values do not have. -/
def noOperation {α : Type} (op : BinaryOp) (a b : Value) : Eval α :=
  typeFault s!"unsupported operand type(s) for {operatorSign op}: '{a.typeName}' and '{b.typeName}'"

/-- The fault of a division by zero. -/
def divisionByZero {α : Type} (text : String) : Eval α := throw (.fault ⟨.divisionByZero, text⟩)

/-- A quotient of whole numbers as a double. -/
def wholeQuotient (a b : Int) : Eval Value :=
  if b = 0 then divisionByZero "division by zero"
  else if Binary64.ratioBits a.natAbs b.natAbs = 2047 * Nat.pow 2 52 then
    throw (.fault ⟨.overflow, "integer division result too large for a float"⟩)
  else pure (.real (Binary64.ofRatio (xor (a < 0) (b < 0)) a.natAbs b.natAbs))

/-- The remainder of two doubles with the sign of the first, exactly. -/
def remainder (x y : Float) : Float :=
  match Binary64.ofFloat x, Binary64.ofFloat y with
  | .finite negative m e, .finite _ n f =>
    if n = 0 then notANumber
    else
      let least := min e f
      let r := m * Nat.pow 2 (e - least).toNat % (n * Nat.pow 2 (f - least).toNat)
      let (num, den) := Binary64.ratio r least
      Binary64.ofRatio negative num den
  | .finite .., .infinite _ => x
  | _, _ => notANumber

/-- Zero with the sign of a double. -/
def zeroLike (x : Float) : Float := if x < 0 || 1 / x < 0 then -0.0 else 0.0

/-- The remainder with the sign of the divisor. -/
def doubleMod (x y : Float) : Float :=
  let r := remainder x y
  if r == 0 then zeroLike y
  else if (y < 0) != (r < 0) then r + y
  else r

/-- The quotient rounded down. -/
def doubleFloorDiv (x y : Float) : Float :=
  let r := remainder x y
  let quotient := (x - r) / y
  let quotient := if r != 0 && (y < 0) != (r < 0) then quotient - 1 else quotient
  if quotient == 0 then zeroLike (x / y)
  else
    let down := quotient.floor
    if quotient - down > 0.5 then down + 1 else down

/-- An operation on numbers. -/
def numeric (op : BinaryOp) (a b : Number) : Eval Value :=
  match op, a, b with
  | .add, .whole a, .whole b => pure (.whole (a + b))
  | .sub, .whole a, .whole b => pure (.whole (a - b))
  | .mul, .whole a, .whole b => pure (.whole (a * b))
  | .div, .whole a, .whole b => wholeQuotient a b
  | .floorDiv, .whole a, .whole b =>
    if b = 0 then divisionByZero "integer division or modulo by zero"
    else pure (.whole (Int.fdiv a b))
  | .mod, .whole a, .whole b =>
    if b = 0 then divisionByZero "integer modulo by zero" else pure (.whole (Int.fmod a b))
  | .pow, .whole a, .whole b =>
    if 0 ≤ b then pure (.whole (Int.pow a b.toNat))
    else if a = 0 then divisionByZero "0.0 cannot be raised to a negative power"
    else do computed ((← double (.whole a)) ^ (← double (.whole b)))
  | op, a, b => do
    let x ← double a
    let y ← double b
    match op with
    | .add => computed (x + y)
    | .sub => computed (x - y)
    | .mul => computed (x * y)
    | .div => if y == 0 then divisionByZero "float division by zero" else computed (x / y)
    | .floorDiv =>
      if y == 0 then divisionByZero "float floor division by zero"
      else computed (doubleFloorDiv x y)
    | .mod => if y == 0 then divisionByZero "float modulo" else computed (doubleMod x y)
    | .pow =>
      if x == 0 && y < 0 then divisionByZero "0.0 cannot be raised to a negative power"
      else computed (x ^ y)

/-- The sum of values that are no numbers: two texts, lists or tuples in a row.
Next to escaped text other text is escaped. -/
def joinTwo (a b : Value) : Eval Value :=
  match a, b with
  | .list as, .list bs => pure (.list (as ++ bs))
  | .tuple as, .tuple bs => pure (.tuple (as ++ bs))
  | .escaped s, .escaped t => pure (.escaped (s ++ t))
  | .escaped s, b =>
    match b.text? with
    | some t => pure (.escaped (s ++ escapeText t))
    | none => noOperation .add a b
  | a, .escaped t =>
    match a.text? with
    | some s => pure (.escaped (escapeText s ++ t))
    | none => noOperation .add a b
  | a, b =>
    match a.text?, b.text? with
    | some s, some t => pure (.text (s ++ t))
    | some _, none => typeFault s!"can only concatenate str (not \"{b.typeName}\") to str"
    | none, _ => noOperation .add a b

/-- Several copies of a list in a row, none for a negative number. -/
def copies {α : Type} (n : Int) (xs : List α) : List α := (List.replicate n.toNat xs).flatten

/-- Whether a value is a text, a list or a tuple. -/
def isRow : Value → Bool
  | .list _ | .tuple _ => true
  | v => v.text?.isSome

/-- A text, list or tuple several times over. -/
def repeated (v : Value) (n : Int) : Value :=
  match v with
  | .list items => .list (copies n items)
  | .tuple items => .tuple (copies n items)
  | .escaped s => .escaped (String.ofList (copies n s.toList))
  | v => .text (String.ofList (copies n (v.text?.getD "").toList))

/-- The product of values of which one is no number. -/
def repeatValue (a b : Value) : Eval Value :=
  let (v, times) :=
    match b.wholeNumber? with
    | some n => (a, some n)
    | none => (b, a.wholeNumber?)
  match times, v.isRow with
  | some n, true => return v.repeated (← counting n)
  | _, _ => noOperation .mul a b

/-- The items of a value that is taken away from another one. -/
def without (items others : List Value) : Eval (List Value) := do
  let kept ← items.foldlM (fun (kept : Array Value) v => do
    if ← isAmong v others then return kept else return kept.push v) #[]
  return kept.toList

/-- Whether a value is a view of keys or entries. -/
def isSetView : Value → Bool
  | .view .keys _ _ | .view .items _ _ => true
  | _ => false

/-- The difference of values that are no numbers: a set, or any value if the other
one is a view of a table, without the items of the other one. -/
def takeAway (a b : Value) : Eval Value := do
  match a, b with
  | .group frozen as, .group _ bs => return .group frozen (← without as bs)
  | a, b =>
    if a.isSetView || b.isSetView then
      let as ← distinct (← a.items)
      let bs ← b.items
      bs.forM asKey
      return .group false (← without as bs)
    else noOperation .sub a b

/-- An operation on two values of which the first is no text to be filled in. -/
def combined (op : BinaryOp) (a b : Value) : Eval Value :=
  match a, b with
  | .undefined why, _ => throw (.missing why)
  | a, .undefined why => if op == .sub && a.isSetView then takeAway a b else throw (.missing why)
  | a, b =>
    match a.number?, b.number? with
    | some x, some y => numeric op x y
    | _, _ =>
      match op with
      | .add => joinTwo a b
      | .mul => repeatValue a b
      | .sub => takeAway a b
      | op => noOperation op a b

/-- An operation on two values. -/
def binary (op : BinaryOp) (a b : Value) : Eval Value :=
  match op, a.text? with
  | .mod, some s => filledIn a s b
  | op, _ => combined op a b

/-- A value with its sign turned. -/
def negate (v : Value) : Eval Value :=
  match v with
  | .undefined why => throw (.missing why)
  | v =>
    match v.number? with
    | some (.whole n) => pure (.whole (-n))
    | some (.real x) => computed (-x)
    | none => typeFault s!"bad operand type for unary -: '{v.typeName}'"

/-- A value with a plus in front: a truth value becomes a number. -/
def plus (v : Value) : Eval Value :=
  match v with
  | .undefined why => throw (.missing why)
  | .nan mark => pure (.nan mark)
  | v =>
    match v.number? with
    | some (.whole n) => pure (.whole n)
    | some (.real x) => pure (.real x)
    | none => typeFault s!"bad operand type for unary +: '{v.typeName}'"

end NodePools.Template.Value
