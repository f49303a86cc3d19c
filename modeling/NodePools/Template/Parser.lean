import NodePools.Template.Syntax
import NodePools.Template.Token

/-!
# Reading templates

A template is read from its tokens by recursive descent.  Operators bind, from
the loosest: a choice, `or`, `and`, `not`, comparisons, sums, joining, products,
powers, signs; filters and tests bind tightest.  A template that cannot be read
is refused with a line: that of the token where reading stopped, or of the last
token if the template ends too soon.

Reading takes a number of steps within each other for each bracket and each
statement inside another one, and there may only be so many of them.

Of the statements there are branchings, loops, assignments, captures and scopes.
No meaning is given here to the others (`leftOutStatements`), to loops that are
recursive, to captures through a filter, and to arguments that are spread over
parameters.  A template is not read beyond one of these; this is told as what is
not available and not as malformed.
-/

namespace NodePools.Template

/-- Why a template cannot be read: it is malformed at a line, or something in it
cannot be had. -/
inductive ReadError where
  | malformed (line : Nat)
  | fault (f : Fault)

/-- The tokens still to be read, the line of the last one read, and how many steps are
under way within each other. -/
structure Cursor where
  tokens : List Token
  line : Nat
  depth : Nat

/-- Reading may fail. -/
abbrev Parse := StateT Cursor (Except ReadError)

/-- How many steps may be under way within each other. -/
def maxDepth : Nat := 960

namespace Parse

/-- Refuses the template at a line. -/
def refuseAt {α : Type} (line : Nat) : Parse α := throw (.malformed line)

/-- Fails at a place where no token can be read. -/
def broken {α : Type} (line : Nat) : Option Fault → Parse α
  | none => refuseAt line
  | some f => throw (.fault f)

/-- Reads a part that takes so many steps to get to. -/
def within {α : Type} (steps : Nat) (part : Parse α) : Parse α := do
  let depth := (← get).depth
  if maxDepth < depth + steps then throw (.fault .tooDeep)
  modify fun c => { c with depth := depth + steps }
  let a ← part
  modify fun c => { c with depth := depth }
  return a

/-- The line of the current token. -/
def currentLine : Parse Nat := do
  let c ← get
  match c.tokens with
  | t :: _ => return t.line
  | [] => return c.line

/-- The current token, nothing at the end. -/
def current? : Parse (Option Lexeme) := do
  match (← get).tokens with
  | t :: _ => return some t.lexeme
  | [] => return none

/-- The token after the current one.  A place where no token can be read fails. -/
def next? : Parse (Option Lexeme) := do
  match (← get).tokens with
  | _ :: ⟨line, .broken why⟩ :: _ => broken line why
  | _ :: t :: _ => return some t.lexeme
  | _ => return none

/-- Refuses the template at the current token. -/
def refuse {α : Type} : Parse α := do refuseAt (← currentLine)

/-- Ends with a form of which no meaning is given here. -/
def leaveOut {α : Type} (form : String) : Parse α := throw (.fault (.unavailable form))

/-- Goes on to the next token. -/
def advance : Parse Unit := do
  match (← get).tokens with
  | _ :: ⟨line, .broken why⟩ :: _ => broken line why
  | t :: rest => modify fun c => { c with tokens := rest, line := t.line }
  | [] => return ()

/-- Whether a token is a given operator. -/
def isOperator (s : String) : Option Lexeme → Bool
  | some (.operator op) => op == s
  | _ => false

/-- Whether a token is a given name. -/
def isName (s : String) : Option Lexeme → Bool
  | some (.name n) => n == s
  | _ => false

/-- Whether a token ends a block tag. -/
def isBlockEnd : Option Lexeme → Bool
  | some .blockEnd => true
  | _ => false

/-- Passes over a token if it is as required. -/
def accept (p : Option Lexeme → Bool) : Parse Bool := do
  if p (← current?) then
    advance
    return true
  else return false

/-- Passes over a token that must be as required. -/
def expect (p : Option Lexeme → Bool) : Parse Unit := do
  if !(← accept p) then refuse

/-- Reads a name. -/
def expectName : Parse String := do
  match ← current? with
  | some (.name s) =>
    advance
    return s
  | _ => refuse

/-- Whether a token ends a list of items without brackets. -/
def endsItems (endsToo : Option Lexeme → Bool) (l : Option Lexeme) : Bool :=
  match l with
  | some .outputEnd | some .blockEnd => true
  | _ => isOperator ")" l || endsToo l

/-- No token at all. -/
def never : Option Lexeme → Bool := fun _ => false

/-- The levels at which operators are read from left to right. -/
inductive Chain where
  | or
  | and
  | sum
  | product
  | power

/-- What an operator makes of its operands at a level. -/
def Chain.operator? (c : Chain) (l : Option Lexeme) : Option (Expr Name → Expr Name → Expr Name) :=
  match c with
  | .or => if isName "or" l then some .or else none
  | .and => if isName "and" l then some .and else none
  | .sum =>
    if isOperator "+" l then some (.binary .add)
    else if isOperator "-" l then some (.binary .sub)
    else none
  | .product =>
    if isOperator "*" l then some (.binary .mul)
    else if isOperator "/" l then some (.binary .div)
    else if isOperator "//" l then some (.binary .floorDiv)
    else if isOperator "%" l then some (.binary .mod)
    else none
  | .power => if isOperator "**" l then some (.binary .pow) else none

/-- The comparison that an operator stands for. -/
def comparison? : Option Lexeme → Option Comparison
  | some (.operator op) =>
    if op = "==" then some .eq
    else if op = "!=" then some .ne
    else if op = "<" then some .lt
    else if op = "<=" then some .le
    else if op = ">" then some .gt
    else if op = ">=" then some .ge
    else none
  | _ => none

/-- Whether a token starts the argument of a test that stands without brackets. -/
def startsArgument (l : Option Lexeme) : Bool :=
  match l with
  | some (.name s) => !(s == "else" || s == "or" || s == "and")
  | some (.text _) | some (.whole _) | some (.real _) => true
  | _ => isOperator "[" l || isOperator "\x7b" l

/-- Adds further quoted texts to one. -/
def adjacentTexts : Nat → String → Parse String
  | 0, s => return s
  | fuel + 1, s => do
    match ← current? with
    | some (.text t) =>
      advance
      adjacentTexts fuel (s ++ t)
    | _ => return s

/-- Further parts of a dotted name. -/
def dottedName : Nat → String → Parse String
  | 0, s => return s
  | fuel + 1, s => do
    if ← accept (isOperator ".") then
      let part ← expectName
      dottedName fuel (s ++ "." ++ part)
    else return s

mutual

/-- An expression: a choice, or what binds tighter. -/
def expression : Nat → Parse (Expr Name)
  | 0 => refuse
  | fuel + 1 => do
    let line ← currentLine
    let e ← chain fuel .or
    choices fuel line e

/-- The choices behind an expression. -/
def choices : Nat → Nat → Expr Name → Parse (Expr Name)
  | 0, _, _ => refuse
  | fuel + 1, line, e => do
    if ← accept (isName "if") then
      let test ← chain fuel .or
      if ← accept (isName "else") then
        let other ← within 1 (expression fuel)
        choices fuel (← currentLine) (.choose test e other)
      else choices fuel (← currentLine) (.chooseOnly test e line)
    else return e

/-- Operators of one level. -/
def chain : Nat → Chain → Parse (Expr Name)
  | 0, _ => refuse
  | fuel + 1, c => do
    let e ← operand fuel c
    chainMore fuel c e

/-- The operators of one level behind an expression. -/
def chainMore : Nat → Chain → Expr Name → Parse (Expr Name)
  | 0, _, _ => refuse
  | fuel + 1, c, e => do
    match c.operator? (← current?) with
    | some combine =>
      advance
      let other ← operand fuel c
      chainMore fuel c (combine e other)
    | none => return e

/-- What the operators of a level stand between. -/
def operand : Nat → Chain → Parse (Expr Name)
  | 0, _ => refuse
  | fuel + 1, c =>
    match c with
    | .or => chain fuel .and
    | .and => negation fuel
    | .sum => joined fuel
    | .product => chain fuel .power
    | .power => unary fuel true

/-- A comparison, with `not` in front or without. -/
def negation : Nat → Parse (Expr Name)
  | 0 => refuse
  | fuel + 1 => do
    if ← accept (isName "not") then return .not (← within 1 (negation fuel))
    else
      let e ← chain fuel .sum
      let others ← comparisons fuel
      return if others.isEmpty then e else .compare e others

/-- The comparisons behind an expression. -/
def comparisons : Nat → Parse (List (Comparison × Expr Name))
  | 0 => refuse
  | fuel + 1 => do
    let l ← current?
    match comparison? l with
    | some c =>
      advance
      let e ← chain fuel .sum
      return (c, e) :: (← comparisons fuel)
    | none =>
      if ← accept (isName "in") then
        let e ← chain fuel .sum
        return (.isIn, e) :: (← comparisons fuel)
      else if isName "not" l then
        if isName "in" (← next?) then
          advance
          advance
          let e ← chain fuel .sum
          return (.notIn, e) :: (← comparisons fuel)
        else return []
      else return []

/-- Expressions joined as texts. -/
def joined : Nat → Parse (Expr Name)
  | 0 => refuse
  | fuel + 1 => do
    let e ← chain fuel .product
    let others ← joinedMore fuel
    return if others.isEmpty then e else .concat (e :: others)

/-- The further parts of a joined text. -/
def joinedMore : Nat → Parse (List (Expr Name))
  | 0 => refuse
  | fuel + 1 => do
    if ← accept (isOperator "~") then
      let e ← chain fuel .product
      return e :: (← joinedMore fuel)
    else return []

/-- An expression with its signs, calls, subscripts and, where they belong to
it, filters and tests. -/
def unary : Nat → Bool → Parse (Expr Name)
  | 0, _ => refuse
  | fuel + 1, withFilters => do
    let e ←
      if ← accept (isOperator "-") then do
        let e ← within 1 (unary fuel false)
        pure (Expr.negate e)
      else if ← accept (isOperator "+") then do
        let e ← within 1 (unary fuel false)
        pure (Expr.plus e)
      else primary fuel
    let e ← postfixes fuel e
    if withFilters then filters fuel e else return e

/-- A name, a constant or an expression in brackets. -/
def primary : Nat → Parse (Expr Name)
  | 0 => refuse
  | fuel + 1 => do
    let line ← currentLine
    match ← current? with
    | some (.name s) =>
      advance
      return if s = "true" || s = "True" then .const (.bool true)
        else if s = "false" || s = "False" then .const (.bool false)
        else if s = "none" || s = "None" then .const .null
        else .name ⟨s, line⟩
    | some (.text s) =>
      advance
      return .const (.text (← adjacentTexts fuel s))
    | some (.whole n) =>
      advance
      return .const (.whole n)
    | some (.real x) =>
      advance
      return .const (.real x)
    | some (.operator op) =>
      if op = "(" then
        advance
        let e ← within 13 (items fuel true true never)
        expect (isOperator ")")
        return e
      else if op = "[" then
        advance
        return .list (← within 13 (listItems fuel false))
      else if op = "\x7b" then
        advance
        return .table (← within 13 (tableEntries fuel false))
      else refuse
    | _ => refuse

/-- One expression, or several with commas as a tuple.  Only in brackets may
there be none. -/
def items : Nat → Bool → Bool → (Option Lexeme → Bool) → Parse (Expr Name)
  | 0, _, _, _ => refuse
  | fuel + 1, withChoice, inBrackets, endsToo => do
    if endsItems endsToo (← current?) then
      if inBrackets then return .tuple [] else refuse
    else
      let e ← if withChoice then expression fuel else chain fuel .or
      if isOperator "," (← current?) then
        return .tuple (e :: (← moreItems fuel withChoice endsToo))
      else return e

/-- The further expressions of a tuple, each behind a comma. -/
def moreItems : Nat → Bool → (Option Lexeme → Bool) → Parse (List (Expr Name))
  | 0, _, _ => refuse
  | fuel + 1, withChoice, endsToo => do
    expect (isOperator ",")
    if endsItems endsToo (← current?) then return []
    else
      let e ← if withChoice then expression fuel else chain fuel .or
      if isOperator "," (← current?) then return e :: (← moreItems fuel withChoice endsToo)
      else return [e]

/-- The items of a list up to its bracket. -/
def listItems : Nat → Bool → Parse (List (Expr Name))
  | 0, _ => refuse
  | fuel + 1, behindItem => do
    if ← accept (isOperator "]") then return []
    else
      if behindItem then expect (isOperator ",")
      if ← accept (isOperator "]") then return []
      else
        let e ← expression fuel
        return e :: (← listItems fuel true)

/-- The entries of a table up to its bracket. -/
def tableEntries : Nat → Bool → Parse (List (Expr Name × Expr Name))
  | 0, _ => refuse
  | fuel + 1, behindEntry => do
    if ← accept (isOperator "\x7d") then return []
    else
      if behindEntry then expect (isOperator ",")
      if ← accept (isOperator "\x7d") then return []
      else
        let k ← expression fuel
        expect (isOperator ":")
        let v ← expression fuel
        return (k, v) :: (← tableEntries fuel true)

/-- The members, subscripts and calls behind an expression. -/
def postfixes : Nat → Expr Name → Parse (Expr Name)
  | 0, _ => refuse
  | fuel + 1, e => do
    if ← accept (isOperator ".") then
      match ← current? with
      | some (.name s) =>
        advance
        postfixes fuel (.member e s)
      | some (.whole n) =>
        advance
        postfixes fuel (.item e (.const (.whole n)))
      | l => do
        let line ← currentLine
        if l.isSome then advance
        refuseAt line
    else if ← accept (isOperator "[") then
      match ← within 14 (subscripts fuel false) with
      | [one] => postfixes fuel (.item e one)
      | several => postfixes fuel (.item e (.tuple several))
    else if isOperator "(" (← current?) then
      let (args, named) ← arguments fuel
      postfixes fuel (.call e args named)
    else return e

/-- What stands between the square brackets behind an expression, up to and with the
closing one. -/
def subscripts : Nat → Bool → Parse (List (Expr Name))
  | 0, _ => refuse
  | fuel + 1, behindOne => do
    if ← accept (isOperator "]") then return []
    else
      if behindOne then expect (isOperator ",")
      let e ← subscript fuel
      return e :: (← subscripts fuel true)

/-- A subscript: an expression or the bounds of a part. -/
def subscript : Nat → Parse (Expr Name)
  | 0 => refuse
  | fuel + 1 => do
    if ← accept (isOperator ":") then sliceFrom fuel (.const .null)
    else
      let start ← expression fuel
      if ← accept (isOperator ":") then sliceFrom fuel start else return start

/-- The bounds of a part behind the first colon. -/
def sliceFrom : Nat → Expr Name → Parse (Expr Name)
  | 0, _ => refuse
  | fuel + 1, start => do
    let stop ← bound fuel
    let step ← if ← accept (isOperator ":") then bound fuel else pure (.const .null)
    return .slice start stop step

/-- A bound of a part, if it is there. -/
def bound : Nat → Parse (Expr Name)
  | 0 => refuse
  | fuel + 1 => do
    let l ← current?
    if isOperator ":" l || isOperator "]" l || isOperator "," l then return .const .null
    else expression fuel

/-- The arguments of a call with their brackets. -/
def arguments : Nat → Parse (List (Expr Name) × List (String × Expr Name))
  | 0 => refuse
  | fuel + 1 => do
    let line ← currentLine
    expect (isOperator "(")
    within 14 (argumentsFrom fuel line false [] [])

/-- The arguments up to the bracket; those read are held in reverse. -/
def argumentsFrom : Nat → Nat → Bool → List (Expr Name) → List (String × Expr Name) →
    Parse (List (Expr Name) × List (String × Expr Name))
  | 0, _, _, _, _ => refuse
  | fuel + 1, line, behindOne, args, named => do
    if ← accept (isOperator ")") then return (args.reverse, named.reverse)
    else
      if behindOne then expect (isOperator ",")
      if ← accept (isOperator ")") then return (args.reverse, named.reverse)
      else
        match ← current? with
        | some (.name s) =>
          if isOperator "=" (← next?) then
            advance
            advance
            let e ← expression fuel
            argumentsFrom fuel line true args ((s, e) :: named)
          else if named.isEmpty then
            let e ← expression fuel
            argumentsFrom fuel line true (e :: args) named
          else refuseAt line
        | l =>
          if isOperator "*" l || isOperator "**" l then leaveOut "spreading of arguments"
          else if named.isEmpty then
            let e ← expression fuel
            argumentsFrom fuel line true (e :: args) named
          else refuseAt line

/-- The filters, tests and calls behind an expression. -/
def filters : Nat → Expr Name → Parse (Expr Name)
  | 0, _ => refuse
  | fuel + 1, e => do
    let l ← current?
    if isOperator "|" l then
      advance
      let line ← currentLine
      let name ← dottedName fuel (← expectName)
      let (args, named) ←
        if isOperator "(" (← current?) then arguments fuel else pure ([], [])
      filters fuel (.filter e name args named line)
    else if isName "is" l then
      let e ← testOf fuel e
      filters fuel e
    else if isOperator "(" l then
      let (args, named) ← arguments fuel
      filters fuel (.call e args named)
    else return e

/-- The test of an expression. -/
def testOf : Nat → Expr Name → Parse (Expr Name)
  | 0, _ => refuse
  | fuel + 1, e => do
    let line ← currentLine
    advance
    let negated ← accept (isName "not")
    let name ← dottedName fuel (← expectName)
    let l ← current?
    let (args, named) ←
      if isOperator "(" l then arguments fuel
      else if startsArgument l then
        if isName "is" l then refuse
        else do
          let e ← primary fuel
          let e ← postfixes fuel e
          pure ([e], [])
      else pure ([], [])
    let tested := Expr.test e name args named line
    return if negated then .not tested else tested

end

mutual

/-- An expression as a target of an assignment, if it can be one. -/
def target? : Expr Name → Option (Target Name)
  | .name n => some (.name n)
  | .tuple items => (targets? items).map .tuple
  | _ => none

/-- Expressions as targets. -/
def targets? : List (Expr Name) → Option (List (Target Name))
  | [] => some []
  | e :: rest =>
    match target? e, targets? rest with
    | some t, some ts => some (t :: ts)
    | _, _ => none

end

/-- Whether a token is a name of any kind. -/
def isAnyName : Option Lexeme → Bool
  | some (.name _) => true
  | _ => false

/-- A part of a target, nothing if it cannot be assigned to.  A member can be one where
members are allowed. -/
def targetPart (fuel : Nat) (membersToo : Bool) : Parse (Option (Target Name)) := do
  let membersToo := membersToo && isAnyName (← current?)
  match ← primary fuel with
  | .name n =>
    if membersToo && isOperator "." (← current?) then
      advance
      return some (.member n (← expectName))
    else return some (.name n)
  | e => return target? e

/-- Further parts behind a comma, nothing if one cannot be assigned to, and the line of
the last comma. -/
def targetParts : Nat → (Option Lexeme → Bool) → Bool →
    Parse (Option (List (Target Name)) × Nat)
  | 0, _, _ => refuse
  | fuel + 1, endsToo, membersToo => do
    let line ← currentLine
    expect (isOperator ",")
    if endsItems endsToo (← current?) then return (some [], line)
    else
      let t ← targetPart fuel membersToo
      if isOperator "," (← current?) then
        let (ts, line) ← targetParts fuel endsToo membersToo
        return (t.bind fun t => ts.map (t :: ·), line)
      else return (t.map ([·]), line)

/-- What a statement assigns to. -/
def target (fuel : Nat) (endsToo : Option Lexeme → Bool) (membersToo : Bool) :
    Parse (Target Name) := do
  let line ← currentLine
  if endsItems endsToo (← current?) then refuse
  else
    let t ← targetPart fuel membersToo
    if isOperator "," (← current?) then
      let (ts, line) ← targetParts fuel endsToo membersToo
      match t, ts with
      | some t, some ts => return .tuple (t :: ts)
      | _, _ => refuseAt line
    else
      match t with
      | some t => return t
      | none => refuseAt line

/-- The opening of a body: a colon may stand before the end of the tag. -/
def openBody : Parse Unit := do
  let _ ← accept (isOperator ":")
  expect isBlockEnd

/-- The names and values of a scope. -/
def bindings : Nat → Bool → Parse (List (Target Name × Expr Name))
  | 0, _ => refuse
  | fuel + 1, behindOne => do
    if isBlockEnd (← current?) then return []
    else
      if behindOne then expect (isOperator ",")
      let t ← target fuel never false
      expect (isOperator "=")
      let e ← expression fuel
      return (t, e) :: (← bindings fuel true)

/-- The statements to which no meaning is given here. -/
def leftOutStatements : List String :=
  ["autoescape", "block", "call", "extends", "filter", "from", "import", "include", "macro",
    "print"]

/-- Puts a piece of output in front of statements; pieces in a row are printed
together. -/
def printFirst (piece : Piece Name) : List Stmt → List Stmt
  | .output pieces :: rest => .output (piece :: pieces) :: rest
  | stmts => .output [piece] :: stmts

mutual

/-- The statements up to a tag with one of the given names, whose name becomes
the current token. -/
def body : Nat → List String → Parse (List Stmt)
  | 0, _ => refuse
  | fuel + 1, ends => do
    match ← current? with
    | none => if ends.isEmpty then return [] else refuse
    | some (.data s) =>
      advance
      return printFirst (.text s) (← body fuel ends)
    | some .outputBegin =>
      advance
      let e ← items fuel true false never
      expect fun l => match l with
        | some .outputEnd => true
        | _ => false
      return printFirst (.expr e) (← body fuel ends)
    | some .blockBegin =>
      advance
      let l ← current?
      if ends.any fun s => isName s l then return []
      else
        let s ← within 4 (statement fuel)
        expect isBlockEnd
        return s :: (← body fuel ends)
    | _ => refuse

/-- A body with its opening. -/
def openedBody : Nat → List String → Parse (List Stmt)
  | 0, _ => refuse
  | fuel + 1, ends => do
    openBody
    body fuel ends

/-- A statement behind the opening of its tag. -/
def statement : Nat → Parse Stmt
  | 0 => refuse
  | fuel + 1 => do
    match ← current? with
    | some (.name keyword) =>
      if keyword = "if" then
        advance
        let (parts, otherwise) ← branches fuel
        return .branch parts otherwise
      else if keyword = "for" then
        advance
        let t ← target fuel (isName "in") false
        expect (isName "in")
        let source ← items fuel false false (isName "recursive")
        let test ← if ← accept (isName "if") then some <$> expression fuel else pure none
        if isName "recursive" (← current?) then leaveOut "recursion of loops"
        let part ← openedBody fuel ["endfor", "else"]
        if ← accept (isName "endfor") then return .loop t source test part []
        else
          advance
          let otherwise ← openedBody fuel ["endfor"]
          advance
          return .loop t source test part otherwise
      else if keyword = "set" then
        advance
        let t ← target fuel never true
        if ← accept (isOperator "=") then return .assign t (← items fuel true false never)
        else
          if isOperator "|" (← current?) then leaveOut "capture through a filter"
          let part ← openedBody fuel ["endset"]
          advance
          return .capture t part
      else if keyword = "with" then
        advance
        let names ← bindings fuel false
        let part ← openedBody fuel ["endwith"]
        advance
        return .scope names part
      else if leftOutStatements.contains keyword then leaveOut s!"statement '{keyword}'"
      else refuse
    | _ => refuse

/-- The parts of a branching behind `if`, up to and with its end. -/
def branches : Nat → Parse (List (Expr Name × List Stmt) × List Stmt)
  | 0 => refuse
  | fuel + 1 => do
    let test ← items fuel false false never
    let part ← openedBody fuel ["elif", "else", "endif"]
    if ← accept (isName "elif") then
      let (parts, otherwise) ← branches fuel
      return ((test, part) :: parts, otherwise)
    else if ← accept (isName "else") then
      let otherwise ← openedBody fuel ["endif"]
      advance
      return ([(test, part)], otherwise)
    else
      advance
      return ([(test, part)], [])

end

/-- Reads all tokens. -/
def template (tokens : List Token) : Except ReadError (List Stmt) :=
  match tokens with
  | ⟨_, .broken (some f)⟩ :: _ => .error (.fault f)
  | ⟨line, .broken none⟩ :: _ => .error (.malformed line)
  | tokens => (body (24 * (tokens.length + 2)) []).run' ⟨tokens, 1, 0⟩

end Parse
end NodePools.Template
