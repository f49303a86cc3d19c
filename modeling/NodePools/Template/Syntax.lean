import NodePools.Template.Value

/-!
# Syntax of templates

Expressions and statements.  They are read with names as they stand in the source;
before they are evaluated, each name is replaced by the place of its value.  Where
rendering or checking can fail with a line, the line is kept.
-/

namespace NodePools.Template

/-- An operator on two values. -/
inductive BinaryOp where
  | add
  | sub
  | mul
  | div
  | floorDiv
  | mod
  | pow
deriving Repr, DecidableEq

/-- A comparison. -/
inductive Comparison where
  | eq
  | ne
  | lt
  | le
  | gt
  | ge
  | isIn
  | notIn
deriving Repr, DecidableEq

/-- A name in the source. -/
structure Name where
  text : String
  line : Nat
deriving Repr, DecidableEq

/-- An expression over names of some kind. -/
inductive Expr (ν : Type) where
  | const (v : Value)
  /-- A constant that cannot be had. -/
  | broken (f : Fault)
  | name (n : ν)
  | tuple (items : List (Expr ν))
  | list (items : List (Expr ν))
  | table (entries : List (Expr ν × Expr ν))
  /-- A member by name, looked up among the members first. -/
  | member (e : Expr ν) (name : String)
  /-- An item by subscript, looked up among the items first. -/
  | item (e subscript : Expr ν)
  /-- The bounds of a part of a sequence, as a subscript; an absent one is nothing. -/
  | slice (start stop step : Expr ν)
  | call (e : Expr ν) (args : List (Expr ν)) (named : List (String × Expr ν))
  | filter (e : Expr ν) (filter : String) (args : List (Expr ν))
      (named : List (String × Expr ν)) (line : Nat)
  | test (e : Expr ν) (test : String) (args : List (Expr ν)) (named : List (String × Expr ν))
      (line : Nat)
  | negate (e : Expr ν)
  | plus (e : Expr ν)
  | not (e : Expr ν)
  | binary (op : BinaryOp) (left right : Expr ν)
  | concat (parts : List (Expr ν))
  | compare (first : Expr ν) (others : List (Comparison × Expr ν))
  | and (left right : Expr ν)
  | or (left right : Expr ν)
  | choose (test yes no : Expr ν)
  /-- A choice without alternative. -/
  | chooseOnly (test yes : Expr ν) (line : Nat)

/-- What a value is assigned to. -/
inductive Target (ν : Type) where
  | name (n : ν)
  /-- A member of what a name stands for.  No value has members that can be assigned. -/
  | member (n : ν) (part : String)
  | tuple (targets : List (Target ν))

/-- A piece of what a template prints. -/
inductive Piece (ν : Type) where
  | text (s : String)
  | expr (e : Expr ν)

/-- A statement. -/
inductive Stmt where
  | output (pieces : List (Piece Name))
  /-- The first part whose test holds, or else the last one. -/
  | branch (parts : List (Expr Name × List Stmt)) (otherwise : List Stmt)
  /-- The body for every item that passes the test, or else the other part if
  there is none. -/
  | loop (target : Target Name) (source : Expr Name) (test : Option (Expr Name))
      (body otherwise : List Stmt)
  | assign (target : Target Name) (e : Expr Name)
  /-- Assigns the text that a body gives. -/
  | capture (target : Target Name) (body : List Stmt)
  /-- Names for a part of the template only. -/
  | scope (bindings : List (Target Name × Expr Name)) (body : List Stmt)

end NodePools.Template
