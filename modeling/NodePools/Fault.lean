/-!
# Faults

A fault is how a computation ends that met a value of a kind or size it has no
rule for, or that the world around it failed.  It has a kind, by which it is
told apart, and a text.  Faults are not errors of this library's own: those
have causes of their own.

A fault also tells that a template has a form of which no meaning is given here.
It says nothing of what such a template is rendered to.
-/

namespace NodePools

/-- The kinds of faults. -/
inductive FaultKind where
  /-- An operation on a value of the wrong type. -/
  | type
  /-- A value without the member asked for. -/
  | member
  /-- A value of the right type that is not acceptable. -/
  | value
  /-- A number that is too large. -/
  | overflow
  | divisionByZero
  /-- A place beyond the end of a list. -/
  | index
  /-- A key that is not in a table. -/
  | key
  /-- Bytes that are not text. -/
  | decoding
  | runtime
  /-- The operating system refused, with a number for the reason if it gave one. -/
  | system (code : Option Int)
  | timeout
  /-- A name that nothing stands for. -/
  | name
  /-- A form that cannot be executed. -/
  | form
  /-- Parts within parts beyond a limit. -/
  | indentation
  /-- Steps within steps beyond a limit. -/
  | recursion
  /-- A form of the template language of which no meaning is given here. -/
  | unavailable
  /-- A failure of no particular kind. -/
  | general
deriving Repr, DecidableEq

/-- A kind and a text. -/
structure Fault where
  kind : FaultKind
  text : String
deriving Repr, DecidableEq

namespace Fault

/-- A whole number too large for a double. -/
def wholeTooLarge : Fault := ⟨.overflow, "int too large to convert to float"⟩

/-- A whole number of too many digits to be written. -/
def tooManyDigits : Fault := ⟨.value, "a whole number has too many digits to be written"⟩

/-- A value of the named type has no such member. -/
def noMember (typeName member : String) : Fault :=
  ⟨.member, s!"'{typeName}' object has no attribute '{member}'"⟩

/-- A value of the named type cannot be walked through. -/
def notIterable (typeName : String) : Fault :=
  ⟨.type, s!"'{typeName}' object is not iterable"⟩

/-- Parts or steps within each other beyond a limit. -/
def tooDeep : Fault := ⟨.recursion, "too many parts within each other"⟩

/-- A form of the template language of which no meaning is given here. -/
def unavailable (form : String) : Fault := ⟨.unavailable, s!"{form} is not available"⟩

/-- A place beyond the end of a list. -/
def indexOutOfRange : Fault := ⟨.index, "list index out of range"⟩

end Fault
end NodePools
