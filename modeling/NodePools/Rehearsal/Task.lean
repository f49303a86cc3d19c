import NodePools.Datum
import NodePools.Settle

/-!
# Tasks for a rehearsal

A task doubles its item, unless it is told to end in another way.
-/

namespace NodePools.Rehearsal

/-- Twice a number, or a text or a list two times. -/
def doubled : Datum → Except Fault Datum
  | .list items => .ok (.list (items ++ items))
  | .text s => .ok (.text (s ++ s))
  | .bytes b => .ok (.bytes (b ++ b))
  | d =>
    match d.number? with
    | some n => .ok (.ofNumber (n + n))
    | none => .error ⟨.type,
        s!"unsupported operand type(s) for *: '{d.typeName}' and 'int'"⟩

/-- The end of the task of an item.  `told` gives, by the text of an item, how its
task ends instead: with an error or aborted. -/
def taskEnd {ε κ : Type} (fault : Fault → ε) (told : String → Option (ε ⊕ κ)) (item : Datum) :
    Outcome ε κ Datum :=
  match told item.plain with
  | some (.inl e) => .failed e
  | some (.inr k) => .aborted k
  | none =>
    match doubled item with
    | .ok d => .value d
    | .error f => .failed (fault f)

/-- The signature without requests: tasks that ask nothing. -/
def Idle : Signature := ⟨Empty, Empty.elim⟩

/-- The result of a program that asks nothing. -/
def idleResult {α : Type} : Prog Idle α → Option α
  | .done a => some a
  | .ask op _ => nomatch op
  | .cut => none

/-- The number of workers that is asked for.  Part of a worker is one. -/
def workersOf : Datum → Except Fault Int
  | .real x => .ok (if 0 < x then x.ceil.toInt64.toInt else 0)
  | d =>
    match d.number? with
    | some (.whole n) => .ok n
    | _ => .error ⟨.type, s!"'<=' not supported between instances of '{d.typeName}' and 'int'"⟩

/-- The results of the tasks of items, shared by a number of workers. -/
def rehearse {ε κ : Type} (fault : Fault → ε) (told : String → Option (ε ⊕ κ))
    (asked : Option Datum) (items : List Datum) :
    Except Fault (Option (Except κ (List (Settled Datum ε Datum)))) := do
  if !items.isEmpty then
    let _ ← Settle.workers (← asked.mapM workersOf) items.length
  return idleResult (Settle.mapSettled (fun item => .done (taskEnd fault told item)) items)

end NodePools.Rehearsal
