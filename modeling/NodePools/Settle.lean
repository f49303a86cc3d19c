import NodePools.Fault
import NodePools.Prog

/-!
# Tasks that do not disturb each other

One task is run for every item, each to its end, whatever becomes of the
others.  A task gives a value, fails, or is aborted; what comes back is a result
for every item in the order of the items, unless tasks were aborted: then the
first of these by the order of the items is what counts.
-/

namespace NodePools

/-- How a task ends: with a value, with a failure of its own, or aborted from
outside. -/
inductive Outcome (ε κ β : Type) where
  | value (b : β)
  | failed (e : ε)
  | aborted (k : κ)
deriving Repr, DecidableEq

/-- An item and the value or the failure of its task. -/
structure Settled (α ε β : Type) where
  item : α
  result : Except ε β

namespace Settle

variable {S : Signature} {α β ε κ : Type}

/-- Runs the task of every item and pairs the items with what came of them. -/
def attemptAll (task : α → Prog S β) : List α → Prog S (List (α × β))
  | [] => .done []
  | a :: rest => do
    let b ← task a
    let others ← attemptAll task rest
    return (a, b) :: others

/-- The results of finished tasks in order, or why the first aborted one was
aborted. -/
def gather : List (α × Outcome ε κ β) → Except κ (List (Settled α ε β))
  | [] => .ok []
  | (a, .value b) :: rest => (gather rest).map (⟨a, .ok b⟩ :: ·)
  | (a, .failed e) :: rest => (gather rest).map (⟨a, .error e⟩ :: ·)
  | (_, .aborted k) :: _ => .error k

/-- The items whose tasks failed, each with its failure. -/
def failures (attempts : List (α × Except ε β)) : List (α × ε) :=
  attempts.filterMap fun
    | (a, .error e) => some (a, e)
    | (_, .ok _) => none

/-- How many workers share the tasks: as many as there are tasks, unless a number
is asked for.  No tasks need no workers; else there must be one at least. -/
def workers (asked : Option Int) (tasks : Nat) : Except Fault Int :=
  let count := asked.getD tasks
  if 0 < tasks ∧ count ≤ 0 then .error ⟨.value, "at least one worker is needed"⟩
  else .ok count

/-- Runs the task of every item and gives their results in order. -/
def mapSettled (task : α → Prog S (Outcome ε κ β)) (items : List α) :
    Prog S (Except κ (List (Settled α ε β))) := do
  let attempts ← attemptAll task items
  return gather attempts

end Settle
end NodePools
