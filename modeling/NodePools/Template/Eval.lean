import NodePools.Template.Value

/-!
# What evaluation keeps

Evaluating an expression may fail, and it may change what is kept while a
template is rendered: the streams and the loops that are under way, the values
of names, and the text written so far.

The next item of a stream may be the outcome of a filter or of a test, which
may walk through other streams.  Evaluation is therefore written against a given
way to take an item, `Surroundings.take`; the rendering ties the knot.
-/

namespace NodePools.Template

/-- How evaluation fails: by a rule of the template language, by the use of a value
that is not there, or by a value of the wrong kind. -/
inductive EvalError where
  | refused (message : String)
  | missing (why : Absence Value)
  | fault (f : Fault)

/-- Where the items of a walk come from. -/
inductive Feed where
  | items (rest : List Value)
  /-- So many whole numbers from one on by steps. -/
  | range (next step : Int) (count : Nat)
  | stream (place : Nat)

/-- The arguments of a call. -/
structure Arguments where
  placed : List Value
  named : List (String × Value)

/-- What a stream makes of the items of another value. -/
inductive Change where
  | map (args : Arguments)
  /-- Keeps those that pass a test, or those that do not, by themselves or by one of
  their attributes. -/
  | select (keep byAttribute : Bool) (args : Arguments)

/-- What a loop knows of itself. -/
structure LoopState where
  /-- What the loop walks through. -/
  source : Value
  feed : Feed
  /-- How many items it has reached. -/
  reached : Nat
  previous : Option Value
  current : Option Value
  /-- The item after the current one, if it has been looked at. -/
  ahead : Option Value
  size : Option Nat

/-- The state of a stream or a loop. -/
inductive Cell where
  | plain (f : Feed)
  /-- Nothing has been asked of it yet. -/
  | waiting (change : Change) (source : Value)
  | changing (change : Change) (f : Feed)
  /-- The items that pass the test of a loop, known by its number; the walk starts
  with the first item. -/
  | passing (test : Nat) (source : Value) (f : Option Feed)
  | loop (l : LoopState)
  | ended

/-- What is kept while a template is rendered. -/
structure State where
  /-- The streams and loops, each with a number of items that it never exceeds. -/
  cells : Array (Cell × Nat)
  /-- How many marks have been given out. -/
  marks : Nat
  /-- The values of names, by the places that the names were given. -/
  slots : Array (Option Value)
  written : String

/-- Before anything is rendered. -/
def State.initial (slots : Nat) : State := ⟨#[], 0, Array.replicate slots none, ""⟩

/-- A step of rendering. -/
abbrev Step := StateT State (Except EvalError)

/-- What evaluation finds given. -/
structure Surroundings where
  /-- The next item of the stream or loop at a place. -/
  take : Nat → Step (Option Value)
  context : Fields Value

/-- Evaluation. -/
abbrev Eval := ReaderT Surroundings Step

/-- A type fault. -/
def typeFault {α : Type} (text : String) : Eval α := throw (.fault ⟨.type, text⟩)

/-- Ends with a form of which no meaning is given here. -/
def unavailable {α : Type} (form : String) : Eval α := throw (.fault (.unavailable form))

instance : MonadLift (Except Fault) Eval where
  monadLift
    | .ok a => pure a
    | .error f => throw (.fault f)

namespace Value

/-- A mark that no value carries yet. -/
def newMark : Eval Nat := modifyGet fun s => (s.marks + 1, { s with marks := s.marks + 1 })

/-- An undefined value. -/
def missing (text : String) : Eval Value := return .undefined ⟨text, none, true, ← newMark⟩

/-- A double that has been computed. -/
def computed (x : Float) : Eval Value := do
  if x.isNaN then return .nan (← newMark) else return .real x

/-- A number as a double. -/
def double (n : Number) : Eval Float :=
  match n.toFloat? with
  | some x => pure x
  | none => throw (.fault .wholeTooLarge)

/-- A whole number that counts items, if it can. -/
def counting (n : Int) : Eval Int :=
  if canCount n then pure n
  else throw (.fault ⟨.overflow, "cannot fit 'int' into an index-sized integer"⟩)

end Value

/-- A new stream or loop with a number of items that it never exceeds. -/
def newCell (cell : Cell) (most : Nat) : Eval Nat :=
  modifyGet fun s => (s.cells.size, { s with cells := s.cells.push (cell, most) })

/-- The state of a stream or loop; one that does not exist has ended. -/
def cellAt (place : Nat) : Eval Cell := do
  match (← get).cells[place]? with
  | some (cell, _) => return cell
  | none => return .ended

/-- A number of items that a stream or loop never exceeds. -/
def mostAt (place : Nat) : Eval Nat := do
  return (((← get).cells[place]?).map Prod.snd).getD 0

/-- Changes the state of a stream or loop. -/
def setCell (place : Nat) (cell : Cell) : Eval Unit :=
  modify fun s => { s with cells := s.cells.modify place fun (_, most) => (cell, most) }

end NodePools.Template
