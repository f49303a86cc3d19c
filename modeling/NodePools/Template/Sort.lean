import NodePools.Template.Compare

/-!
# Sorting values

Values are sorted by keys; those with equal keys stay in their order.  Keys may be
in no order at all, such as numbers and what is not a number.  Then the comparisons
that are made, and in which sequence, show in the result: a short list is taken as
an ascending or descending run at its front, into which the values behind it are
put one by one, each at the place that halving finds.  Long lists are halved, sorted
and merged.
-/

namespace NodePools.Template.Value

/-- A value behind its key. -/
abbrev Keyed := Value × Value

/-- The place of a key in a sorted run between two places, found by halving. -/
def insertionPoint (run : Array Keyed) (key : Value) : Nat → Nat → Nat → Eval Nat
  | 0, low, _ => pure low
  | fuel + 1, low, high => do
    if h : low < high ∧ high ≤ run.size then
      let middle := low + (high - low) / 2
      have : middle < run.size := by omega
      if ← ordered .lt key run[middle].1 then insertionPoint run key fuel low middle
      else insertionPoint run key fuel (middle + 1) high
    else return low

/-- Puts values into a sorted run one after the other. -/
def insertAll (run : Array Keyed) : List Keyed → Eval (Array Keyed)
  | [] => pure run
  | x :: rest => do
    let place ← insertionPoint run x.1 (run.size + 1) 0 run.size
    insertAll (run.take place ++ #[x] ++ run.drop place) rest

/-- The values at the front that ascend behind a first one, or descend strictly, in
reverse, and the others. -/
def frontRun (descending : Bool) (run : List Keyed) (last : Keyed) :
    List Keyed → Eval (List Keyed × List Keyed)
  | [] => pure (run, [])
  | x :: rest => do
    if (← ordered .lt x.1 last.1) == descending then frontRun descending (x :: run) x rest
    else return (run, x :: rest)

/-- A short list sorted. -/
def sortShort : List Keyed → Eval (List Keyed)
  | [] => pure []
  | [x] => pure [x]
  | x :: y :: rest => do
    let descending ← ordered .lt y.1 x.1
    let (run, others) ← frontRun descending [y, x] y rest
    return (← insertAll (if descending then run else run.reverse).toArray others).toList

/-- Merges two sorted lists behind what has been merged, in reverse. -/
def merge (merged : List Keyed) : Nat → List Keyed → List Keyed → Eval (List Keyed)
  | 0, xs, ys => pure (merged.reverse ++ xs ++ ys)
  | _, [], ys => pure (merged.reverse ++ ys)
  | _, xs, [] => pure (merged.reverse ++ xs)
  | fuel + 1, x :: xs, y :: ys => do
    if ← ordered .lt y.1 x.1 then merge (y :: merged) fuel (x :: xs) ys
    else merge (x :: merged) fuel xs (y :: ys)

/-- How many values make a list long. -/
def longList : Nat := 64

/-- A list sorted by halving it at most so many times. -/
def sortHalves : Nat → List Keyed → Eval (List Keyed)
  | 0, xs => sortShort xs
  | depth + 1, xs => do
    if xs.length < longList then sortShort xs
    else
      let half := xs.length / 2
      let front ← sortHalves depth (xs.take half)
      let back ← sortHalves depth (xs.drop half)
      merge [] xs.length front back

/-- Values sorted by keys, from the greatest down if asked for. -/
def sortBy (descending : Bool) (key : Value → Eval Value) (items : List Value) :
    Eval (List Value) := do
  let keyed ← items.mapM fun v => return (← key v, v)
  let sorted ← sortHalves keyed.length (if descending then keyed.reverse else keyed)
  let sorted := sorted.map Prod.snd
  return if descending then sorted.reverse else sorted

end NodePools.Template.Value
