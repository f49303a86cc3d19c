import NodePools.Template.Evaluate

/-!
# Executing programs

What a branch assigns stays; what a loop, a scope or a capture assigns is gone behind
its end.  The items that a loop with a test goes through are tested one by one, each
when its turn comes.
-/

namespace NodePools.Template

/-- Does what is to be done where a scope is entered. -/
def enter (entries : List Entry) : Eval Unit := entries.forM Entry.run

/-- Goes through the items of the loop at a place, at most so many, and gives whether
there was one. -/
def runLoop (place : Nat) (step : Value → Eval Unit) : Nat → Bool → Eval Bool
  | 0, ran => pure ran
  | n + 1, ran => do
    match ← loopAt place with
    | none => return ran
    | some l =>
      match ← takeLoop place l with
      | none => return ran
      | some v =>
        step v
        runLoop place step n true

/-- What a loop goes through: a value, or those of its items that pass a test. -/
def LoopHead.items (head : LoopHead) : Eval Value := do
  let v ← eval head.source
  match head.test with
  | none => return v
  | some test => Value.newStream "generator" (.passing test v none) (← v.most)

/-- Executes a step for every item of a loop and gives whether there was one. -/
def LoopHead.run (head : LoopHead) (step : Eval Unit) : Eval Bool := do
  let v ← head.items
  let f ← v.feed
  match head.itself with
  | none =>
    f.fold (fun _ item => do
      head.target.assign item
      step
      return true) false
  | some slot =>
    let most ← f.most
    let place ← newCell (.loop ⟨v, f, 0, none, none, none, none⟩) most
    runLoop place (fun item => do
      head.target.assign item
      setSlot slot (some (.loop place))
      step) (most + 1) false

mutual

/-- Executes a step of rendering. -/
def exec : Act → Eval Unit
  | .write s => modify fun st => { st with written := st.written ++ s }
  | .print e => do
    let s ← (← eval e).plain
    modify fun st => { st with written := st.written ++ s }
  | .assign t e => do
    t.requireNames
    t.assign (← eval e)
  | .branch parts otherwise => do
    if !(← execParts parts) then execAll otherwise
  | .loop head body otherwise => do
    let ran ← head.run do
      enter body.entries
      execAll body.acts
    if !ran then
      enter otherwise.entries
      execAll otherwise.acts
  | .capture t body => do
    let outside := (← get).written
    modify fun st => { st with written := "" }
    enter body.entries
    execAll body.acts
    let s := (← get).written
    modify fun st => { st with written := outside }
    t.requireNames
    t.assign (.text s)
  | .scope bindings body => do
    enter body.entries
    bindings.forM fun (t, e) => do t.assign (← eval e)
    execAll body.acts

/-- Executes steps in a row. -/
def execAll : List Act → Eval Unit
  | [] => pure ()
  | a :: rest => do
    exec a
    execAll rest

/-- Executes the first part of a branching whose test holds, if there is one. -/
def execParts : List (Expr Slot × List Act) → Eval Bool
  | [] => pure false
  | (test, acts) :: rest => do
    if ← (← eval test).truthy then
      execAll acts
      return true
    else execParts rest

end

/-- The next item that passes the test of a loop, after at most so many. -/
def LoopTest.next (test : LoopTest) (number place : Nat) (source : Value) :
    Nat → Feed → Eval (Option Value)
  | 0, _ => do
    setCell place .ended
    return none
  | n + 1, f => do
    match ← f.next with
    | none =>
      setCell place .ended
      return none
    | some (v, f) =>
      setCell place (.passing number source (some f))
      test.target.assign v
      if ← (← eval test.condition).truthy then return some (← test.target.value)
      else test.next number place source n f

/-- The next item of the stream or loop at a place. -/
def Program.advance (p : Program) (place : Nat) : Eval (Option Value) := do
  match ← cellAt place with
  | .plain _ => takePlain place
  | .waiting change source => change.start place source
  | .changing change f => change.next place ((← f.most) + 1) f
  | .passing number source f =>
    match p.tests[number]? with
    | none => return none
    | some test =>
      let f ←
        match f with
        | some f => pure f
        | none => do
          enter test.entries
          source.feed
      test.next number place source ((← f.most) + 1) f
  | .loop l =>
    match ← takeLoop place l with
    | some v => return some (.tuple [v, .loop place])
    | none => return none
  | .ended => return none

/-- The next item of the stream or loop at a place, which may ask others for theirs, so
many within each other. -/
def Program.take (p : Program) (context : Fields Value) : Nat → Nat → Step (Option Value)
  | 0, _ => throw (.fault .tooDeep)
  | depth + 1, place => (p.advance place).run ⟨p.take context depth, context⟩

/-- How many streams may ask each other for items. -/
def maxStreams : Nat := 1000

/-- Evaluates within a program and a context. -/
def Program.within {α : Type} (p : Program) (context : Fields Value) (e : Eval α) :
    Except EvalError α :=
  ((e.run ⟨p.take context maxStreams, context⟩).run (State.initial p.slots)).map Prod.fst

/-- The text that a program writes in a context. -/
def Program.text (p : Program) (context : Fields Value) : Except EvalError String :=
  p.within context do
    enter p.body.entries
    execAll p.body.acts
    return (← get).written

end NodePools.Template
