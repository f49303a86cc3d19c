import NodePools.Template.Filter
import NodePools.Template.Syntax

/-!
# Constant parts of expressions

What does not depend on names is computed before a template is rendered, also
where it is never reached.  A part that cannot be computed so is left to the
rendering: a name, a call, a filter that gives a stream, and mostly what fails.
But where an undefined value is asked whether it is true, is joined to a text, or
is printed, and where a table is given a key that cannot be one, the failure comes
at once.
-/

namespace NodePools.Template

/-- Named arguments of which a later one wins, in the place of the earlier one. -/
def lastNamed {α : Type} (named : List (String × α)) : List (String × α) := Fields.ofPairs named

/-- What is computed, unless it fails. -/
def unlessFails (e : Eval (Option Value)) : Eval (Option Value) := tryCatch e fun _ => pure none

/-- A rule applied to a value that may not be known. -/
def mapKnown (v : Option Value) (f : Value → Eval Value) : Eval (Option Value) :=
  match v with
  | some v => some <$> f v
  | none => pure none

namespace Expr

mutual

/-- The value of an expression, if it can be known without rendering. -/
def constant? : Expr Name → Eval (Option Value)
  | .const v => pure (some v)
  | .broken _ | .name _ | .call .. => pure none
  | .tuple items => return (← constants? items).map .tuple
  | .list items => return (← constants? items).map .list
  | .table entries => do
    return (← constantEntries? [] entries).map .table
  | .member e part => unlessFails do mapKnown (← constant? e) (Value.member · part)
  | .item e subscript => unlessFails do
    match ← constant? e with
    | some v => mapKnown (← constant? subscript) v.item
    | none => return none
  | .slice start stop step => do
    match ← constant? start with
    | none => return none
    | some a =>
      match ← constant? stop with
      | none => return none
      | some b => return (← constant? step).map (.slice a b)
  | .filter e called args named _ => do
    match Value.filter? called, Value.isContextFilter called with
    | some apply, false =>
      match ← constants? args with
      | none => return none
      | some placed =>
        match ← constantNamed? named with
        | none => return none
        | some named =>
          match ← constant? e with
          | none => return none
          | some v => unlessFails (some <$> apply v ⟨placed, lastNamed named⟩)
    | _, _ => return none
  | .test e called args named _ => do
    if Value.isTest called then
      match ← constants? args with
      | none => return none
      | some placed =>
        match ← constantNamed? named with
        | none => return none
        | some named =>
          match ← constant? e with
          | none => return none
          | some v =>
            unlessFails do return some (.bool (← Value.ask id called v ⟨placed, lastNamed named⟩))
    else return none
  | .negate e => unlessFails do mapKnown (← constant? e) Value.negate
  | .plus e => unlessFails do mapKnown (← constant? e) Value.plus
  | .not e => unlessFails do
    mapKnown (← constant? e) fun v => return .bool (!(← v.truthy))
  | .binary op a b => unlessFails do
    match ← constant? a with
    | some x => mapKnown (← constant? b) (Value.binary op x)
    | none => return none
  | .concat parts => return (← constantTexts? parts).map fun texts => .text (String.join texts)
  | .compare first others => do
    match ← constant? first with
    | some v => unlessFails (constantChain? v others)
    | none => return none
  | .and a b => do
    match ← constant? a with
    | some v => if ← v.truthy then constant? b else return some v
    | none => return none
  | .or a b => do
    match ← constant? a with
    | some v => if ← v.truthy then return some v else constant? b
    | none => return none
  | .choose c yes no => do
    match ← constant? c with
    | some v => if ← v.truthy then constant? yes else constant? no
    | none => return none
  | .chooseOnly c yes _ => do
    match ← constant? c with
    | some v => if ← v.truthy then constant? yes else return none
    | none => return none

/-- The values of several expressions, if all are known. -/
def constants? : List (Expr Name) → Eval (Option (List Value))
  | [] => pure (some [])
  | e :: rest => do
    match ← constant? e with
    | some v => return (← constants? rest).map (v :: ·)
    | none => return none

/-- The texts of several expressions, if all are known. -/
def constantTexts? : List (Expr Name) → Eval (Option (List String))
  | [] => pure (some [])
  | e :: rest => do
    match ← constant? e with
    | some v =>
      let text ← v.plain
      return (← constantTexts? rest).map (text :: ·)
    | none => return none

/-- The values of named arguments, if all are known. -/
def constantNamed? : List (String × Expr Name) → Eval (Option (List (String × Value)))
  | [] => pure (some [])
  | (key, e) :: rest => do
    match ← constant? e with
    | some v => return (← constantNamed? rest).map ((key, v) :: ·)
    | none => return none

/-- A table with further entries, if all are known. -/
def constantEntries? (made : List (Value × Value)) :
    List (Expr Name × Expr Name) → Eval (Option (List (Value × Value)))
  | [] => pure (some made)
  | (k, e) :: rest => do
    match ← constant? k with
    | none => return none
    | some key =>
      match ← constant? e with
      | none => return none
      | some v => constantEntries? (← Value.addEntry made (key, v)) rest

/-- The answer to comparisons in a row, if they are known up to the first that does
not hold. -/
def constantChain? (v : Value) : List (Comparison × Expr Name) → Eval (Option Value)
  | [] => pure (some (.bool true))
  | (c, e) :: rest => do
    match ← constant? e with
    | none => return none
    | some w => if ← Value.compare c v w then constantChain? w rest else return some (.bool false)

end

end Expr

mutual

/-- Whether a value can be written down as a constant. -/
def Value.isLiteral : Value → Bool
  | .null | .bool _ | .whole _ | .real _ | .nan _ | .text _ | .escaped _ | .range .. => true
  | .tuple items | .list items | .group _ items => Value.areLiteral items
  | .table entries => Value.areLiteralEntries entries
  | _ => false

/-- Whether values can be written down as constants. -/
def Value.areLiteral : List Value → Bool
  | [] => true
  | v :: rest => v.isLiteral && Value.areLiteral rest

/-- Whether keys and values can be written down as constants. -/
def Value.areLiteralEntries : List (Value × Value) → Bool
  | [] => true
  | (k, v) :: rest => k.isLiteral && v.isLiteral && Value.areLiteralEntries rest

end

namespace Expr

/-- An expression as a constant, if it can be known and written down. -/
def settle (e : Expr Name) : Eval (Expr Name) := do
  match ← constant? e with
  | some v => return if v.isLiteral then .const v else e
  | none => return e

mutual

/-- An expression with its constant parts computed, the inner ones first. -/
def fold : Expr Name → Eval (Expr Name)
  | .const v => pure (.const v)
  | .broken f => pure (.broken f)
  | .name n => pure (.name n)
  | .tuple items => do settle (.tuple (← foldAll items))
  | .list items => do settle (.list (← foldAll items))
  | .table entries => do settle (.table (← foldEntries entries))
  | .member e part => do settle (.member (← fold e) part)
  | .item e subscript => do
    let e ← fold e
    settle (.item e (← fold subscript))
  | .slice start stop step => do
    let start ← fold start
    let stop ← fold stop
    settle (.slice start stop (← fold step))
  | .call e args named => do
    let e ← fold e
    let args ← foldAll args
    settle (.call e args (← foldNamed named))
  | .filter e called args named line => do
    let e ← fold e
    let args ← foldAll args
    settle (.filter e called args (← foldNamed named) line)
  | .test e called args named line => do
    let e ← fold e
    let args ← foldAll args
    settle (.test e called args (← foldNamed named) line)
  | .negate e => do settle (.negate (← fold e))
  | .plus e => do settle (.plus (← fold e))
  | .not e => do settle (.not (← fold e))
  | .binary op a b => do
    let a ← fold a
    settle (.binary op a (← fold b))
  | .concat parts => do settle (.concat (← foldAll parts))
  | .compare first others => do
    let first ← fold first
    settle (.compare first (← foldCompared others))
  | .and a b => do
    let a ← fold a
    settle (.and a (← fold b))
  | .or a b => do
    let a ← fold a
    settle (.or a (← fold b))
  | .choose c yes no => do
    let c ← fold c
    let yes ← fold yes
    settle (.choose c yes (← fold no))
  | .chooseOnly c yes line => do
    let c ← fold c
    settle (.chooseOnly c (← fold yes) line)

/-- Several expressions with their constant parts computed. -/
def foldAll : List (Expr Name) → Eval (List (Expr Name))
  | [] => pure []
  | e :: rest => return (← fold e) :: (← foldAll rest)

/-- Named arguments with their constant parts computed. -/
def foldNamed : List (String × Expr Name) → Eval (List (String × Expr Name))
  | [] => pure []
  | (key, e) :: rest => return (key, ← fold e) :: (← foldNamed rest)

/-- The entries of a table with their constant parts computed. -/
def foldEntries : List (Expr Name × Expr Name) → Eval (List (Expr Name × Expr Name))
  | [] => pure []
  | (k, e) :: rest => do
    let k ← fold k
    let e ← fold e
    return (k, e) :: (← foldEntries rest)

/-- Comparisons with their constant parts computed. -/
def foldCompared : List (Comparison × Expr Name) → Eval (List (Comparison × Expr Name))
  | [] => pure []
  | (c, e) :: rest => return (c, ← fold e) :: (← foldCompared rest)

end

end Expr
end NodePools.Template
