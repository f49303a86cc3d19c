import NodePools.Template.Method

/-!
# Tests

A test answers a question about a value.  Being defined is the only question
that may be asked of an undefined value without failing.

There are more tests than a meaning is given to here (`leftOutTests`).
-/

namespace NodePools.Template

/-- A test: what it takes besides the value, and its answer. -/
structure TestRule where
  parameters : List Parameter
  answer : Value → List Value → Eval Bool

namespace Value

/-- A test without parameters that never fails. -/
def question (answer : Value → Bool) : TestRule := ⟨[], fun v _ => pure (answer v)⟩

/-- Whether a value leaves a given remainder by two. -/
def hasParity (remainder : Int) : TestRule :=
  ⟨[], fun v _ => do same (← binary .mod v (.whole 2)) (.whole remainder)⟩

/-- A comparison as a test. -/
def comparison (c : Comparison) : TestRule :=
  ⟨[required "other"], fun v args =>
    match args with
    | [w] => compare c v w
    | _ => pure false⟩

/-- The tests with a meaning. -/
def tests : List (String × TestRule) := [
  ("defined", question fun v => !v.isUndefined),
  ("undefined", question isUndefined),
  ("none", question fun
    | .null => true
    | _ => false),
  ("number", question fun v => v.number?.isSome),
  ("string", question fun v => v.text?.isSome),
  ("mapping", question fun
    | .table _ => true
    | _ => false),
  ("odd", hasParity 1),
  ("even", hasParity 0),
  ("eq", comparison .eq), ("equalto", comparison .eq), ("==", comparison .eq),
  ("ne", comparison .ne), ("!=", comparison .ne),
  ("lt", comparison .lt), ("lessthan", comparison .lt), ("<", comparison .lt),
  ("le", comparison .le), ("<=", comparison .le),
  ("gt", comparison .gt), ("greaterthan", comparison .gt), (">", comparison .gt),
  ("ge", comparison .ge), (">=", comparison .ge),
  ("in", comparison .isIn)]

/-- The tests to which no meaning is given here. -/
def leftOutTests : List String :=
  ["divisibleby", "filter", "test", "boolean", "false", "true", "integer", "float", "lower", "upper",
    "sequence", "iterable", "callable", "sameas", "escaped"]

/-- Asks a test of a value; `unknown` is what the failure says of a name that is
no test. -/
def ask (unknown : String → String) (name : String) (v : Value) (args : Arguments) : Eval Bool := do
  match tests.find? (·.1 == name) with
  | some (_, rule) => rule.answer v (← args.bind rule.parameters)
  | none =>
    if leftOutTests.contains name then unavailable s!"test {Text.quoted name}"
    else throw (.refused (unknown name))

end Value
end NodePools.Template
