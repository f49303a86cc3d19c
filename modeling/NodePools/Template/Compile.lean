import NodePools.Template.Constant
import NodePools.Template.Program
import NodePools.Template.Scope
import NodePools.Text.Composition

/-!
# From statements to programs

Before a template is rendered, its constant parts are computed, every name is given
its place, and what can never be rendered is refused:

* a filter or a test of an unknown name, but within a branch or a choice only if it
  is reached;
* an assignment to the name `loop` within a loop;
* the bounds of a part that are no subscript of their own, an argument that is named
  twice, and parts within parts beyond a limit: these are flaws of the form, and are
  reported only if all else is in order.

A constant stands for itself wherever it is put.  A negative one on the left of a power
would be written without brackets, so that its sign is that of the power; this is left
out.
-/

namespace NodePools.Template

/-- Why a template cannot be made into a program. -/
inductive CompileError where
  | malformed (line : Nat)
  | failed (e : EvalError)

/-- Whether a name means the same as another one is decided by its form within its
scope. -/
structure Place where
  zone : Nat
  level : Nat
  name : String
deriving DecidableEq

/-- What is known of a program that is being made. -/
structure Draft where
  places : Array Place
  tests : Array LoopTest
  /-- The first flaw in the form of a part. -/
  flaw : Option Fault
  /-- Something is wrong with the form of the whole. -/
  whole : Bool

/-- Making a program may fail. -/
abbrev Compile := StateT Draft (Except CompileError)

/-- The fault of a form that cannot be executed. -/
def formFault : Fault := ⟨.form, "a form that cannot be executed"⟩

namespace Compile

/-- Reports a flaw, of which the first counts. -/
def report (f : Fault) : Compile Unit := modify fun d => { d with flaw := d.flaw.or (some f) }

/-- Reports that something is wrong with the form of the whole. -/
def reportWhole : Compile Unit := modify fun d => { d with whole := true }

/-- Computes what does not depend on names. -/
def constantly {α : Type} (e : Eval α) : Compile α :=
  match (e.run ⟨takePlain, []⟩).run (State.initial 0) with
  | .ok (a, _) => pure a
  | .error e => throw (.failed e)

/-- The index of a place. -/
def indexOf (place : Place) : Compile Nat :=
  modifyGet fun d =>
    match d.places.idxOf? place with
    | some i => (i, d)
    | none => (d.places.size, { d with places := d.places.push place })

/-- The index of the place that a name has in a scope. -/
def indexIn (s : Scope) (name : String) : Compile Nat :=
  indexOf ⟨s.zone, s.level, Text.nameForm name⟩

end Compile

/-- Where in a template a part stands. -/
structure Frame where
  /-- The scopes around it, the innermost first. -/
  scopes : List Scope
  /-- It may never be reached, so that unknown filters and tests are let pass. -/
  soft : Bool
  /-- How many bodies are within each other here. -/
  level : Nat
  /-- How many loops are. -/
  loops : Nat
  /-- Its text is captured. -/
  captured : Bool

namespace Frame

open Compile

/-- The place where a name is found. -/
def slot (f : Frame) (name : String) : Compile Slot := do
  match Scope.find? name f.scopes with
  | some s => return ⟨← indexIn s name, name, s.names.get? name = some .given⟩
  | none => return ⟨← indexOf ⟨0, 0, Text.nameForm name⟩, name, false⟩

end Frame

/-- Words that cannot name an argument in a plain way. -/
def reservedWords : List String :=
  ["False", "None", "True", "and", "as", "assert", "async", "await", "break", "class", "continue",
    "def", "del", "elif", "else", "except", "finally", "for", "from", "global", "if", "import",
    "in", "is", "lambda", "nonlocal", "not", "or", "pass", "raise", "return", "try", "while",
    "with", "yield"]

/-- Whether one of several names is such a word. -/
def anyReserved (names : List String) : Bool := names.any reservedWords.contains

/-- Whether a name stands twice among others. -/
def anyTwice : List String → Bool
  | [] => false
  | name :: rest => rest.contains name || anyTwice rest

namespace Value

mutual

/-- Whether a rule holds of a value or of one within it. -/
def anyWithin (p : Value → Bool) : Value → Bool
  | .tuple items | .list items | .group _ items => anyOfItems p items
  | .table entries => anyOfEntries p entries
  | v => p v

/-- Whether a rule holds of one of several values or within it. -/
def anyOfItems (p : Value → Bool) : List Value → Bool
  | [] => false
  | v :: rest => v.anyWithin p || anyOfItems p rest

/-- Whether a rule holds of a key or a value or within it. -/
def anyOfEntries (p : Value → Bool) : List (Value × Value) → Bool
  | [] => false
  | (k, v) :: rest => k.anyWithin p || v.anyWithin p || anyOfEntries p rest

end

/-- Whether a whole number within a value has too many digits to be written. -/
def hasTooManyDigits : Value → Bool :=
  anyWithin fun
    | .whole n => !Decimal.canWrite n
    | _ => false

/-- Whether a number within a value has no written form: it is infinite, or none. -/
def hasNoForm : Value → Bool :=
  anyWithin fun
    | .nan _ => true
    | .real x => x.isInf
    | _ => false

mutual

/-- How many brackets stand within each other in the written form of a value. -/
def brackets : Value → Nat
  | .escaped _ | .range .. => 1
  | .tuple items | .list items => mostBrackets items + 1
  | .group _ items => mostBrackets items + 2
  | .table entries => mostBracketsOfEntries entries + 1
  | _ => 0

/-- The most of these for several values. -/
def mostBrackets : List Value → Nat
  | [] => 0
  | v :: rest => max v.brackets (mostBrackets rest)

/-- The most of these for the entries of a table. -/
def mostBracketsOfEntries : List (Value × Value) → Nat
  | [] => 0
  | (k, v) :: rest => max (max k.brackets v.brackets) (mostBracketsOfEntries rest)

end

end Value

namespace Expr

mutual

/-- How many parts of an expression are within each other. -/
def height : Expr Name → Nat
  | .const _ | .broken _ | .name _ => 1
  | .tuple items | .list items | .concat items => heightOfAll items + 1
  | .table entries => heightOfEntries entries + 2
  | .member e _ | .negate e | .plus e | .not e => height e + 1
  | .item e subscript => max (height e) (height subscript) + 1
  | .slice start stop step => max (max (height start) (height stop)) (height step) + 1
  | .call e args named | .filter e _ args named _ | .test e _ args named _ =>
    max (max (height e) (heightOfAll args)) (heightOfNamed named) + 1
  | .binary _ a b | .and a b | .or a b => max (height a) (height b) + 1
  | .compare first others => max (height first) (heightOfCompared others) + 1
  | .choose c yes no => max (max (height c) (height yes)) (height no) + 1
  | .chooseOnly c yes _ => max (height c) (height yes) + 1

/-- The greatest height of several expressions. -/
def heightOfAll : List (Expr Name) → Nat
  | [] => 0
  | e :: rest => max (height e) (heightOfAll rest)

/-- The greatest height of named arguments. -/
def heightOfNamed : List (String × Expr Name) → Nat
  | [] => 0
  | (_, e) :: rest => max (height e + 1) (heightOfNamed rest)

/-- The greatest height of the entries of a table. -/
def heightOfEntries : List (Expr Name × Expr Name) → Nat
  | [] => 0
  | (k, e) :: rest => max (max (height k) (height e)) (heightOfEntries rest)

/-- The greatest height of comparisons. -/
def heightOfCompared : List (Comparison × Expr Name) → Nat
  | [] => 0
  | (_, e) :: rest => max (height e + 1) (heightOfCompared rest)

end

mutual

/-- How many brackets stand within each other in the form in which an expression is
executed.  A name that may have no value is asked for with two of them. -/
def brackets : Expr Slot → Nat
  | .const v => v.brackets
  | .broken _ => 0
  | .name n => if n.given then 0 else 2
  | .tuple items | .list items => mostBrackets items + 1
  | .concat items => mostBrackets items + 2
  | .table entries => mostBracketsOfEntries entries + 1
  | .member e _ | .negate e | .plus e | .not e => brackets e + 1
  | .item e subscript => max (brackets e) (brackets subscript) + 1
  | .slice start stop step => max (max (brackets start) (brackets stop)) (brackets step)
  | .call e args named | .filter e _ args named _ | .test e _ args named _ =>
    max (max (brackets e) (mostBrackets args))
      (mostBracketsOfNamed named + if anyReserved (named.map Prod.fst) then 1 else 0) + 1
  | .binary _ a b | .and a b | .or a b => max (brackets a) (brackets b) + 1
  | .compare first others => max (brackets first) (mostBracketsOfCompared others) + 1
  | .choose c yes no => max (max (brackets c) (brackets yes)) (brackets no) + 1
  | .chooseOnly c yes _ => max (max (brackets c) (brackets yes)) 1 + 1

/-- The most of these for several expressions. -/
def mostBrackets : List (Expr Slot) → Nat
  | [] => 0
  | e :: rest => max (brackets e) (mostBrackets rest)

/-- The most of these for named arguments. -/
def mostBracketsOfNamed : List (String × Expr Slot) → Nat
  | [] => 0
  | (_, e) :: rest => max (brackets e) (mostBracketsOfNamed rest)

/-- The most of these for the entries of a table. -/
def mostBracketsOfEntries : List (Expr Slot × Expr Slot) → Nat
  | [] => 0
  | (k, e) :: rest => max (max (brackets k) (brackets e)) (mostBracketsOfEntries rest)

/-- The most of these for comparisons. -/
def mostBracketsOfCompared : List (Comparison × Expr Slot) → Nat
  | [] => 0
  | (_, e) :: rest => max (brackets e) (mostBracketsOfCompared rest)

end

end Expr

namespace Frame

open Compile

/-- A constant in a program. -/
def constant (v : Value) : Compile (Expr Slot) := do
  if v.hasTooManyDigits then throw (.failed (.fault .tooManyDigits))
  else if v.hasNoForm then return .broken ⟨.name, "a number that has no written form"⟩
  else return .const v

/-- The names of arguments.  A name that stands twice is a flaw of the whole, unless one
of the names is a reserved word; then the last one counts. -/
def argumentNames (names : List String) : Compile (List String) := do
  if anyReserved names then return names
  else
    let names := names.map Text.nameForm
    if anyTwice names then reportWhole
    return names

/-- Refuses an unknown name at a line unless the part may never be reached. -/
def requireKnown (f : Frame) (known : Bool) (line : Nat) : Compile Unit :=
  if known || f.soft then pure () else throw (.malformed line)

mutual

/-- An expression with the places of its names. -/
def place (f : Frame) : Expr Name → Compile (Expr Slot)
  | .const v => constant v
  | .broken e => pure (.broken e)
  | .name n => return .name (← f.slot n.text)
  | .tuple items => return .tuple (← placeAll f items)
  | .list items => return .list (← placeAll f items)
  | .table entries => return .table (← placeEntries f entries)
  | .member e name => return .member (← place f e) name
  | .item e (.slice start stop step) => do
    let e ← place f e
    let start ← place f start
    let stop ← place f stop
    return .item e (.slice start stop (← place f step))
  | .item e subscript => do
    let e ← place f e
    return .item e (← place f subscript)
  | .slice start stop step => do
    report formFault
    let start ← place f start
    let stop ← place f stop
    return .slice start stop (← place f step)
  | .call e args named => do
    let e ← place f e
    let args ← placeAll f args
    return .call e args (← placeNamed f (← argumentNames (named.map Prod.fst)) named)
  | .filter e name args named line => do
    f.requireKnown (Value.knowsFilter name) line
    let e ← place f e
    let args ← placeAll f args
    return .filter e name args (← placeNamed f (← argumentNames (named.map Prod.fst)) named) line
  | .test e name args named line => do
    f.requireKnown (Value.knowsTest name) line
    let e ← place f e
    let args ← placeAll f args
    return .test e name args (← placeNamed f (← argumentNames (named.map Prod.fst)) named) line
  | .negate e => return .negate (← place f e)
  | .plus e => return .plus (← place f e)
  | .not e => return .not (← place f e)
  | .binary op a b => do
    let a ← place f a
    return .binary op a (← place f b)
  | .concat parts => return .concat (← placeAll f parts)
  | .compare first others => do
    let first ← place f first
    return .compare first (← placeCompared f others)
  | .and a b => do
    let a ← place f a
    return .and a (← place f b)
  | .or a b => do
    let a ← place f a
    return .or a (← place f b)
  | .choose c yes no => do
    let f := { f with soft := true }
    let yes ← place f yes
    let c ← place f c
    return .choose c yes (← place f no)
  | .chooseOnly c yes line => do
    let f := { f with soft := true }
    let yes ← place f yes
    return .chooseOnly (← place f c) yes line

/-- Several expressions with the places of their names. -/
def placeAll (f : Frame) : List (Expr Name) → Compile (List (Expr Slot))
  | [] => pure []
  | e :: rest => return (← place f e) :: (← placeAll f rest)

/-- Arguments under new names with the places of their names. -/
def placeNamed (f : Frame) (names : List String) :
    List (String × Expr Name) → Compile (List (String × Expr Slot))
  | [] => pure []
  | (name, e) :: rest => do
    let e ← place f e
    return (names.headD name, e) :: (← placeNamed f names.tail rest)

/-- The entries of a table with the places of their names. -/
def placeEntries (f : Frame) : List (Expr Name × Expr Name) → Compile (List (Expr Slot × Expr Slot))
  | [] => pure []
  | (k, e) :: rest => do
    let k ← place f k
    let e ← place f e
    return (k, e) :: (← placeEntries f rest)

/-- Comparisons with the places of their names. -/
def placeCompared (f : Frame) : List (Comparison × Expr Name) → Compile (List (Comparison × Expr Slot))
  | [] => pure []
  | (c, e) :: rest => return (c, ← place f e) :: (← placeCompared f rest)

end

/-- How many parts of an expression may be within each other where its constant parts are
computed. -/
def maxHeight : Nat := 315

/-- How many may be in an expression that is a constant as a whole. -/
def maxConstantHeight : Nat := 480

/-- How many brackets may be within each other where an expression is executed. -/
def maxBrackets : Nat := 200

/-- How many bodies may be within each other. -/
def maxLevel : Nat := 99

/-- How many loops may be within each other. -/
def maxLoops : Nat := 20

mutual

/-- An expression made ready: its constant parts are computed first, but those at the
front of a list, a tuple or a table part by part. -/
def settled (f : Frame) : Expr Name → Compile (Expr Slot)
  | .tuple items => return .tuple (← settledAll f items)
  | .list items => return .list (← settledAll f items)
  | .table entries => return .table (← settledEntries f entries)
  | e => do
    if maxHeight < e.height then throw (.failed (.fault .tooDeep))
    f.place (← constantly e.fold)

/-- Several expressions made ready. -/
def settledAll (f : Frame) : List (Expr Name) → Compile (List (Expr Slot))
  | [] => pure []
  | e :: rest => return (← settled f e) :: (← settledAll f rest)

/-- The entries of a table made ready. -/
def settledEntries (f : Frame) :
    List (Expr Name × Expr Name) → Compile (List (Expr Slot × Expr Slot))
  | [] => pure []
  | (k, e) :: rest => do
    let k ← settled f k
    let e ← settled f e
    return (k, e) :: (← settledEntries f rest)

end

/-- An expression made ready for a place within so many brackets. -/
def expression (f : Frame) (outside : Nat) (e : Expr Name) : Compile (Expr Slot) := do
  let e ← f.settled e
  if maxBrackets < outside + e.brackets then report formFault
  return e

mutual

/-- A target with the places of its names. -/
def target (f : Frame) : Target Name → Compile (Target Nat)
  | .name n => return .name (← f.slot n.text).index
  | .member n part => return .member (← f.slot n.text).index part
  | .tuple targets => return .tuple (← targetList f targets)

/-- Targets with the places of their names. -/
def targetList (f : Frame) : List (Target Name) → Compile (List (Target Nat))
  | [] => pure []
  | t :: rest => return (← target f t) :: (← targetList f rest)

end

/-- A part within a scope of its own. -/
def inside (f : Frame) (s : Scope) : Frame := { f with scopes := s :: f.scopes, soft := false }

/-- A part within so many more bodies. -/
def deeper (f : Frame) (bodies : Nat) : Compile Frame := do
  if maxLevel < f.level + bodies then report ⟨.indentation, "too many bodies within each other"⟩
  return { f with level := f.level + bodies }

end Frame

/-- What is done for the places of a scope where it is entered. -/
def Scope.entries (s : Scope) : Compile (List Entry) := do
  let filled ← s.names.filterMapM fun (name, origin) => do
    let slot ← Compile.indexIn s name
    match origin with
    | .given | .empty => return none
    | .fromContext => return some (Entry.fromContext slot name)
    | .fromOuter zone level =>
      return some (.copy slot (← Compile.indexOf ⟨zone, level, Text.nameForm name⟩))
  let cleared ← s.names.filterMapM fun (name, origin) => do
    if origin = .empty then return some (Entry.clear (← Compile.indexIn s name)) else return none
  return filled ++ cleared

/-- A scope that gives places to the names of a target. -/
def Scope.declareAll (s : Scope) (t : Target Name) : Scope :=
  t.names.foldl (fun s n => s.declare n.text) s

/-- The text of a piece of output, if it can be known without rendering. -/
def Piece.constant? : Piece Name → Eval (Option String)
  | .text s => pure (some s)
  | .expr e => do
    match ← e.constant? with
    | some v => return some (← v.plain)
    | none => return none

namespace Frame

open Compile

/-- A piece of output with its text if that is known. -/
def knownPiece (p : Piece Name) : Compile (Piece Name) := do
  match p with
  | .text s => return .text s
  | .expr e =>
    if maxConstantHeight < e.height then throw (.failed (.fault .tooDeep))
    match ← constantly p.constant? with
    | some s => return .text s
    | none => return .expr e

/-- Pieces of output of which texts in a row are one. -/
def joinPieces : List (Piece Name) → List (Piece Name)
  | [] => []
  | .text s :: rest =>
    match joinPieces rest with
    | .text t :: rest => .text (s ++ t) :: rest
    | rest => .text s :: rest
  | .expr e :: rest => .expr e :: joinPieces rest

/-- What is printed: all that is constant is computed first. -/
def output (f : Frame) (pieces : List (Piece Name)) : Compile (List Act) := do
  let pieces := joinPieces (← pieces.mapM knownPiece)
  let outside := if !f.captured then 1 else if pieces.length = 1 then 2 else 3
  pieces.mapM fun
    | .text s => return .write s
    | .expr e => return .print (← f.expression outside e)

/-- The number of the test of a loop. -/
def loopTest (f : Frame) (t : Target Name) : Option (Expr Name) → Compile (Option Nat)
  | none => pure none
  | some e => do
    let number := (← get).tests.size
    let s := e.names.foldl (Scope.read f.scopes)
      ((Scope.inside (number + 1) f.scopes).declareAll t)
    let f ← ({ f.inside s with loops := 1 }).deeper 3
    let test : LoopTest := ⟨← f.target t, ← s.entries, ← f.expression 0 e⟩
    modify fun d => { d with tests := d.tests.push test }
    return some number

mutual

/-- What a statement does. -/
def acts (f : Frame) : Stmt → Compile (List Act)
  | .output pieces => f.output pieces
  | .branch parts otherwise => do
    let f := { f with soft := true }
    let parts ← partActs f parts
    return [.branch parts (← allActs (← f.deeper 1) otherwise)]
  | .loop t source test body otherwise => do
    let knowsItself := Stmt.readUnassigned "loop" body
    let opened := Scope.inside 0 f.scopes
    let opened := if knowsItself then opened.declare "loop" else opened
    let bodyScope := Stmt.extendAll f.scopes (opened.declareAll t) body
    let otherScope := Stmt.extendAll f.scopes (Scope.inside 0 f.scopes) otherwise
    let number ← f.loopTest t test
    let assigned := t.names ++ Stmt.assignedInAll body ++ Stmt.assignedInAll otherwise
    match assigned.find? fun n => n.text = "loop" with
    | some n => throw (.malformed n.line)
    | none => pure ()
    let bodyFrame := { f.inside bodyScope with loops := f.loops + 1 }
    let t ← bodyFrame.target t
    let itself ← if knowsItself then some <$> indexIn bodyScope "loop" else pure none
    let outside := (if knowsItself then 1 else 0) + if number.isSome then 1 else 0
    let source ← f.expression outside source
    if maxLoops < bodyFrame.loops then reportWhole
    let body ← allActs (← bodyFrame.deeper 1) body
    let other ← allActs (← (f.inside otherScope).deeper 1) otherwise
    return [.loop ⟨t, itself, source, number⟩ ⟨← bodyScope.entries, body⟩
      ⟨← otherScope.entries, other⟩]
  | .assign t e => do
    let t ← f.target t
    return [.assign t (← f.expression 0 e)]
  | .capture t body => do
    let s := Stmt.extendAll f.scopes (Scope.inside 0 f.scopes) body
    let body ← allActs { f.inside s with captured := true } body
    return [.capture (← f.target t) ⟨← s.entries, body⟩]
  | .scope bindings body => do
    let opened := bindings.foldl (fun s b => s.declareAll b.1) (Scope.inside 0 f.scopes)
    let s := Stmt.extendAll f.scopes opened body
    let bindings ← bindings.mapM fun (t, e) => do
      let t ← (f.inside s).target t
      return (t, ← f.expression 0 e)
    let body ← allActs (f.inside s) body
    return [.scope bindings ⟨← s.entries, body⟩]

/-- What several statements do. -/
def allActs (f : Frame) : List Stmt → Compile (List Act)
  | [] => pure []
  | s :: rest => return (← acts f s) ++ (← allActs f rest)

/-- What the parts of a branching do. -/
def partActs (f : Frame) : List (Expr Name × List Stmt) → Compile (List (Expr Slot × List Act))
  | [] => pure []
  | (test, body) :: rest => do
    let test ← f.expression 0 test
    let body ← allActs (← f.deeper 1) body
    return (test, body) :: (← partActs f rest)

end

end Frame

/-- The program of statements, with what is still to be reported. -/
def Program.draft (stmts : List Stmt) : Compile Program := do
  let knowsItself := Stmt.readUnassigned "self" stmts
  let opened := Scope.inside 0 []
  let opened := if knowsItself then opened.declare "self" else opened
  let s := Stmt.extendAll [] opened stmts
  let body ← Frame.allActs ⟨[s], false, 1, 0, false⟩ stmts
  let entries ← s.entries
  let entries ←
    if knowsItself then pure (.put (← Compile.indexIn s "self") .itself :: entries)
    else pure entries
  let d ← get
  return ⟨d.places.size, ⟨entries, body⟩, d.tests⟩

/-- The program of statements. -/
def Program.ofStmts (stmts : List Stmt) : Except CompileError Program :=
  match (Program.draft stmts).run ⟨#[], #[], none, false⟩ with
  | .error e => .error e
  | .ok (p, d) =>
    match d.flaw with
    | some f => .error (.failed (.fault f))
    | none => if d.whole then .error (.failed (.fault formFault)) else .ok p

end NodePools.Template
