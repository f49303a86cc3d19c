import NodePools.Template.Syntax

/-!
# Scopes

A template is a scope, and so are each body of a loop, the part of a loop that
stands for no items, the test of a loop, a scope with names of its own, and a
capture.  Where the value of a name is kept is decided before rendering, from all
mentions in the scope:

* a name that is only read has a place in the outermost scope that reads it, and its
  value is looked up in the context when that scope is entered;
* a name that is assigned has a place in the scope that assigns it, which is filled
  with the value of an outer scope on entry if one has a place for it, and else is
  empty at first, also where the context has a value for the name;
* what only some branch assigns counts as assigned, but its place is filled from the
  context as long as no outer scope has one.
-/

namespace NodePools.Template

/-- How the place of a name is filled where its scope is entered. -/
inductive Origin where
  /-- The name is given its value by what opens the scope. -/
  | given
  | fromContext
  /-- The value of the name in the scope at a level further out. -/
  | fromOuter (zone level : Nat)
  | empty
deriving DecidableEq

/-- The names of a scope. -/
structure Scope where
  /-- Tests of loops have places of their own, in zones other than zero. -/
  zone : Nat
  level : Nat
  /-- The names that have a place here, with how it is filled, in order of their first
  mention. -/
  names : Fields Origin
  /-- The names that are assigned here. -/
  assigned : List String

/-- The innermost of several scopes that has a place for a name. -/
def Scope.find? (name : String) : List Scope → Option Scope
  | [] => none
  | s :: rest => if s.names.has name then some s else find? name rest

namespace Scope

/-- A scope within others that has no names yet. -/
def inside (zone : Nat) (outer : List Scope) : Scope :=
  { zone, level := (outer.head?.map fun s => s.level + 1).getD 0, names := [], assigned := [] }

/-- Gives a name a place that what opens the scope fills. -/
def declare (name : String) (s : Scope) : Scope :=
  { s with names := s.names.set name .given, assigned := name :: s.assigned }

/-- Reads a name. -/
def read (outer : List Scope) (s : Scope) (name : String) : Scope :=
  if (find? name (s :: outer)).isSome then s
  else { s with names := s.names.set name .fromContext }

/-- The origin of a place from the outer scopes. -/
def fromOuter? (outer : List Scope) (name : String) : Option Origin :=
  (find? name outer).map fun o => .fromOuter o.zone o.level

/-- Assigns a name. -/
def assign (outer : List Scope) (s : Scope) (name : String) : Scope :=
  let s := { s with assigned := name :: s.assigned }
  if s.names.has name then s
  else { s with names := s.names.set name ((fromOuter? outer name).getD .empty) }

/-- A scope behind branches, each of which is the scope as that branch leaves it. -/
def afterBranches (outer : List Scope) (s : Scope) (branches : List Scope) : Scope :=
  let merged := branches.foldl (fun acc b =>
    { acc with
      names := acc.names.setAll b.names
      assigned := b.assigned ++ acc.assigned }) s
  let new := (branches.flatMap Scope.assigned).filter fun name => !s.assigned.contains name
  { merged with
    names := new.foldl (fun names name =>
      names.set name ((fromOuter? outer name).getD .fromContext)) merged.names }

end Scope

namespace Expr

mutual

/-- The names in an expression, in the order in which it is written. -/
def names : Expr Name → List String
  | .const _ | .broken _ => []
  | .name n => [n.text]
  | .tuple items | .list items | .concat items => namesOfAll items
  | .table entries => namesOfEntries entries
  | .member e _ | .negate e | .plus e | .not e => names e
  | .item e subscript => names e ++ names subscript
  | .slice start stop step => names start ++ names stop ++ names step
  | .call e args named | .filter e _ args named _ | .test e _ args named _ =>
    names e ++ namesOfAll args ++ namesOfNamed named
  | .binary _ a b | .and a b | .or a b => names a ++ names b
  | .compare first others => names first ++ namesOfCompared others
  | .choose c yes no => names c ++ names yes ++ names no
  | .chooseOnly c yes _ => names c ++ names yes

/-- The names in several expressions. -/
def namesOfAll : List (Expr Name) → List String
  | [] => []
  | e :: rest => names e ++ namesOfAll rest

/-- The names in named arguments. -/
def namesOfNamed : List (String × Expr Name) → List String
  | [] => []
  | (_, e) :: rest => names e ++ namesOfNamed rest

/-- The names in the entries of a table. -/
def namesOfEntries : List (Expr Name × Expr Name) → List String
  | [] => []
  | (k, e) :: rest => names k ++ names e ++ namesOfEntries rest

/-- The names in comparisons. -/
def namesOfCompared : List (Comparison × Expr Name) → List String
  | [] => []
  | (_, e) :: rest => names e ++ namesOfCompared rest

end

end Expr

/-- The name in a piece of output. -/
def Piece.names : Piece Name → List String
  | .text _ => []
  | .expr e => e.names

namespace Target

mutual

/-- The names that a target assigns. -/
def names : Target Name → List Name
  | .name n => [n]
  | .member .. => []
  | .tuple targets => namesOfAll targets

/-- The names that several targets assign. -/
def namesOfAll : List (Target Name) → List Name
  | [] => []
  | t :: rest => names t ++ namesOfAll rest

end

mutual

/-- The names of which a target assigns a member. -/
def owners : Target Name → List Name
  | .name _ => []
  | .member n _ => [n]
  | .tuple targets => ownersOfAll targets

/-- The names of which several targets assign a member. -/
def ownersOfAll : List (Target Name) → List Name
  | [] => []
  | t :: rest => owners t ++ ownersOfAll rest

end

/-- A scope behind an assignment. -/
def extend (outer : List Scope) (s : Scope) (t : Target Name) : Scope :=
  (t.owners.map Name.text).foldl (Scope.read outer)
    ((t.names.map Name.text).foldl (Scope.assign outer) s)

end Target

/-- A mention of a name. -/
structure Mention where
  name : String
  /-- The name is read and not assigned. -/
  isRead : Bool

/-- Names that are read. -/
def reads (names : List String) : List Mention := names.map (⟨·, true⟩)

/-- The names of a target, which are assigned. -/
def Target.mentions (t : Target Name) : List Mention := t.names.map fun n => ⟨n.text, false⟩

namespace Stmt

mutual

/-- The mentions of names in a statement and in all within it, in the order in which
its parts are gone through. -/
def mentions : Stmt → List Mention
  | .output pieces => reads (pieces.flatMap Piece.names)
  | .branch parts otherwise => mentionsOfParts parts ++ mentionsOfAll otherwise
  | .loop target source test body otherwise =>
    target.mentions ++ reads source.names ++ mentionsOfAll body ++ mentionsOfAll otherwise ++
      reads ((test.map Expr.names).getD [])
  | .assign target e => target.mentions ++ reads e.names
  | .capture target body => target.mentions ++ mentionsOfAll body
  | .scope bindings body =>
    bindings.flatMap (fun b => b.1.mentions) ++ reads (bindings.flatMap fun b => b.2.names) ++
      mentionsOfAll body

/-- The mentions of names in several statements. -/
def mentionsOfAll : List Stmt → List Mention
  | [] => []
  | s :: rest => mentions s ++ mentionsOfAll rest

/-- The mentions of names in the parts of a branching. -/
def mentionsOfParts : List (Expr Name × List Stmt) → List Mention
  | [] => []
  | (e, body) :: rest => reads e.names ++ mentionsOfAll body ++ mentionsOfParts rest

end

mutual

/-- The names that a statement and all within it assign.  A scope may use a name for
itself. -/
def assigned : Stmt → List Name
  | .output _ => []
  | .branch parts otherwise => assignedInParts parts ++ assignedInAll otherwise
  | .loop target _ _ body otherwise => target.names ++ assignedInAll body ++ assignedInAll otherwise
  | .assign target _ => target.names
  | .capture target body => target.names ++ assignedInAll body
  | .scope _ body => assignedInAll body

/-- The names that several statements assign. -/
def assignedInAll : List Stmt → List Name
  | [] => []
  | s :: rest => assigned s ++ assignedInAll rest

/-- The names that the parts of a branching assign. -/
def assignedInParts : List (Expr Name × List Stmt) → List Name
  | [] => []
  | (_, body) :: rest => assignedInAll body ++ assignedInParts rest

end

/-- Whether statements read a name before anything in them assigns it. -/
def readUnassigned (name : String) (stmts : List Stmt) : Bool :=
  match (mentionsOfAll stmts).find? fun m => m.name == name with
  | some m => m.isRead
  | none => false

mutual

/-- A scope behind a statement of its own.  What a loop, a scope and a capture
hold belongs to other scopes. -/
def extend (outer : List Scope) (s : Scope) : Stmt → Scope
  | .output pieces => (pieces.flatMap Piece.names).foldl (Scope.read outer) s
  | .branch parts otherwise => extendParts outer s (fun s => extendAll outer s otherwise) parts
  | .loop _ source _ _ _ => source.names.foldl (Scope.read outer) s
  | .assign target e => target.extend outer (e.names.foldl (Scope.read outer) s)
  | .capture target _ => target.extend outer s
  | .scope bindings _ => (bindings.flatMap fun b => b.2.names).foldl (Scope.read outer) s

/-- A scope behind several statements. -/
def extendAll (outer : List Scope) (s : Scope) : List Stmt → Scope
  | [] => s
  | stmt :: rest => extendAll outer (extend outer s stmt) rest

/-- A scope behind a branching: its first part, all further parts one after the other,
and the last part are three branches. -/
def extendParts (outer : List Scope) (s : Scope) (otherwise : Scope → Scope) :
    List (Expr Name × List Stmt) → Scope
  | [] => s
  | (test, body) :: rest =>
    let s := test.names.foldl (Scope.read outer) s
    s.afterBranches outer
      [extendAll outer s body, extendFurther outer s rest, otherwise s]

/-- A scope behind the further parts of a branching, each a branching of its own. -/
def extendFurther (outer : List Scope) (s : Scope) : List (Expr Name × List Stmt) → Scope
  | [] => s
  | (test, body) :: rest =>
    let s := test.names.foldl (Scope.read outer) s
    extendFurther outer (s.afterBranches outer [extendAll outer s body, s, s]) rest

end

end Stmt
end NodePools.Template
