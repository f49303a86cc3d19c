import NodePools.Template.Syntax

/-!
# Programs

What is executed to render a template: its statements with the place of every name
decided, and with what has to be done where a scope is entered.
-/

namespace NodePools.Template

/-- Where the value of a name is kept. -/
structure Slot where
  index : Nat
  name : String
  /-- Whatever opens the scope fills the place, so that it always holds a value. -/
  given : Bool

/-- What is done for one place where a scope is entered. -/
inductive Entry where
  /-- Looks a name up in the context. -/
  | fromContext (slot : Nat) (name : String)
  | copy (slot source : Nat)
  | clear (slot : Nat)
  | put (slot : Nat) (v : Value)

/-- A scope where it is entered, and what is executed in it. -/
structure Block (α : Type) where
  entries : List Entry
  acts : List α

/-- What drives a loop. -/
structure LoopHead where
  target : Target Nat
  /-- The place of what the loop knows of itself, if anything asks for it. -/
  itself : Option Nat
  source : Expr Slot
  /-- The number of the test that an item has to pass. -/
  test : Option Nat

/-- A step of rendering. -/
inductive Act where
  | write (s : String)
  | print (e : Expr Slot)
  | assign (target : Target Nat) (e : Expr Slot)
  | branch (parts : List (Expr Slot × List Act)) (otherwise : List Act)
  | loop (head : LoopHead) (body otherwise : Block Act)
  /-- Assigns the text that a body gives. -/
  | capture (target : Target Nat) (body : Block Act)
  | scope (bindings : List (Target Nat × Expr Slot)) (body : Block Act)

/-- The test of a loop, which has a scope of its own. -/
structure LoopTest where
  target : Target Nat
  entries : List Entry
  condition : Expr Slot

/-- A template that is ready to be rendered. -/
structure Program where
  /-- How many places there are. -/
  slots : Nat
  body : Block Act
  tests : Array LoopTest

end NodePools.Template
