import NodePools.Template.Eval

/-!
# Walking through values

A walk takes the items of a value one after the other.  A walk through a list or
a text leaves it as it is; one through a stream or a loop uses it up, so that the
next walk goes on where this one stopped.  Every walk is bounded by a number of
items that its source never exceeds.
-/

namespace NodePools.Template

/-- The next item and what is left. -/
def Feed.next : Feed → Eval (Option (Value × Feed))
  | .items [] => pure none
  | .items (v :: rest) => pure (some (v, .items rest))
  | .range _ _ 0 => pure none
  | .range n step (count + 1) => pure (some (.whole n, .range (n + step) step count))
  | .stream place => do
    match ← (← read).take place with
    | some v => return some (v, .stream place)
    | none => return none

/-- A number of items that a feed never exceeds. -/
def Feed.most : Feed → Eval Nat
  | .items rest => pure rest.length
  | .range _ _ count => pure count
  | .stream place => mostAt place

/-- Goes through at most so many items as long as the step says so. -/
def Feed.walkUpTo {β : Type} (step : β → Value → Eval (β × Bool)) : Nat → Feed → β → Eval β
  | 0, _, b => pure b
  | n + 1, f, b => do
    match ← f.next with
    | none => return b
    | some (v, f) =>
      let (b, on) ← step b v
      if on then walkUpTo step n f b else return b

/-- Goes through the items as long as the step says so.  The end is asked for as well:
what cannot be walked through fails there. -/
def Feed.walk {β : Type} (step : β → Value → Eval (β × Bool)) (f : Feed) (b : β) : Eval β := do
  f.walkUpTo step ((← f.most) + 1) b

/-- Goes through all items. -/
def Feed.fold {β : Type} (step : β → Value → Eval β) (f : Feed) (b : β) : Eval β :=
  f.walk (fun b v => return (← step b v, true)) b

/-- What a function makes of each item in turn. -/
def Feed.forEach {α : Type} (change : Value → Eval α) (f : Feed) : Eval (List α) := do
  return (← f.fold (fun acc v => return acc.push (← change v)) #[]).toList

/-- All items. -/
def Feed.toList : Feed → Eval (List Value)
  | .items rest => pure rest
  | f => f.forEach pure

namespace Value

/-- A walk through a value. -/
def feed : Value → Eval Feed
  | .undefined why => if why.strict then throw (.missing why) else pure (.items [])
  | .tuple items | .list items | .group _ items => pure (.items items)
  | .table entries => pure (.items (entries.map Prod.fst))
  | .view kind entries _ => pure (.items (viewItems kind entries))
  | .range start step stop => pure (.range start step (rangeSize start step stop))
  | .stream _ place | .loop place => pure (.stream place)
  | .bytes b => pure (.items (b.map fun x => .whole x.toNat))
  | v =>
    match v.text? with
    | some s => pure (.items (charTexts s))
    | none => throw (.fault (.notIterable v.typeName))

/-- All items of a value. -/
def items (v : Value) : Eval (List Value) := do (← v.feed).toList

/-- A number of items that a walk through a value never exceeds. -/
def most (v : Value) : Eval Nat := do
  match v with
  | .stream _ place | .loop place => mostAt place
  | .undefined _ => return 0
  | .tuple items | .list items | .group _ items => return items.length
  | .table entries | .view _ entries _ => return entries.length
  | .range start step stop => return rangeSize start step stop
  | .bytes b => return b.length
  | v => return (v.text?.map String.length).getD 0

/-- A new stream. -/
def newStream (typeName : String) (cell : Cell) (most : Nat) : Eval Value := do
  return .stream typeName (← newCell cell most)

end Value

/-- The next item of a stream that gives items as they are. -/
def takePlain (place : Nat) : Step (Option Value) := do
  match (← get).cells[place]? with
  | some (.plain (.items (v :: rest)), most) =>
    modify fun s => { s with cells := s.cells.setIfInBounds place (.plain (.items rest), most) }
    return some v
  | some (.plain (.range n step (count + 1)), most) =>
    modify fun s =>
      { s with cells := s.cells.setIfInBounds place (.plain (.range (n + step) step count), most) }
    return some (.whole n)
  | _ => return none

/-- The loop at a place, if there is one. -/
def loopAt (place : Nat) : Eval (Option LoopState) := do
  match ← cellAt place with
  | .loop l => return some l
  | _ => return none

/-- Changes the loop at a place. -/
def setLoop (place : Nat) (l : LoopState) : Eval Unit := setCell place (.loop l)

/-- The next item of a loop, which becomes its current one. -/
def takeLoop (place : Nat) (l : LoopState) : Eval (Option Value) := do
  match l.ahead with
  | some v =>
    setLoop place { l with
      reached := l.reached + 1, previous := l.current, current := some v, ahead := none }
    return some v
  | none =>
    match ← l.feed.next with
    | none => return none
    | some (v, feed) =>
      setLoop place { l with
        reached := l.reached + 1, previous := l.current, current := some v, feed := feed }
      return some v

/-- The item after the current one of a loop. -/
def lookAhead (place : Nat) (l : LoopState) : Eval (Option Value) := do
  match l.ahead with
  | some v => return some v
  | none =>
    match ← l.feed.next with
    | none => return none
    | some (v, feed) =>
      setLoop place { l with ahead := some v, feed := feed }
      return some v

namespace Value

/-- How many items a value has, nothing if it is of no kind that has a size. -/
def size? : Value → Eval (Option Nat)
  | .undefined why => if why.strict then throw (.missing why) else pure (some 0)
  | .tuple items | .list items | .group _ items => pure (some items.length)
  | .table entries | .view _ entries _ => pure (some entries.length)
  | .range start step stop => return some (← counting (rangeSize start step stop)).toNat
  | .bytes b => pure (some b.length)
  | v => pure (v.text?.map String.length)

end Value

/-- How many items a loop has: as many as its source, or else what it has reached
and all that is left, which is taken for this.  A loop through a loop asks that
one, at most so many times. -/
def loopSizeUpTo : Nat → Nat → Eval Nat
  | 0, _ => pure 0
  | depth + 1, place => do
    match ← loopAt place with
    | none => return 0
    | some l =>
      match l.size with
      | some n => return n
      | none =>
        let known ←
          match l.source with
          | .loop source => some <$> loopSizeUpTo depth source
          | v => v.size?
        match known with
        | some n =>
          setLoop place { l with size := some n }
          return n
        | none =>
          let rest ← l.feed.toList
          let n := rest.length + l.reached + if l.ahead.isSome then 1 else 0
          setLoop place { l with feed := .items rest, size := some n }
          return n

/-- How many items a loop has. -/
def loopSize (place : Nat) : Eval Nat := loopSizeUpTo (place + 1) place

namespace Value

/-- How many items a value has. -/
def size (v : Value) : Eval Nat := do
  match v with
  | .loop place => loopSize place
  | v =>
    match ← v.size? with
    | some n => return n
    | none => typeFault s!"object of type '{v.typeName}' has no len()"

/-- Whether a value counts as true. -/
def truthy : Value → Eval Bool
  | .undefined why => if why.strict then throw (.missing why) else pure false
  | .null => pure false
  | .bool b => pure b
  | .whole n => pure (n != 0)
  | .real x => pure (x != 0)
  | .tuple items | .list items | .group _ items => pure !items.isEmpty
  | .table entries | .view .keys entries _ | .view .values entries _
  | .view .items entries _ => pure !entries.isEmpty
  | .range start step stop => pure (rangeSize start step stop != 0)
  | .bytes b => pure !b.isEmpty
  | .loop place => return (← loopSize place) != 0
  | v =>
    match v.text? with
    | some s => pure !s.isEmpty
    | none => pure true

end Value
end NodePools.Template
