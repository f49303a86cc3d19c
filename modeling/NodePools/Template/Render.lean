import NodePools.Error
import NodePools.Template.Compile
import NodePools.Template.Execute
import NodePools.Template.Parser

/-!
# Rendering

A source is read, made into a program and executed in a context.  It is refused with
a line if it does not read or names what there is not, and with a message if an
undefined value is used or rendering meets something else that the template language
does not allow.  Faults of the values themselves are handed on.
-/

namespace NodePools.Template

/-- How rendering a source fails. -/
inductive RenderError where
  | refused (reason : TemplateReason)
  | fault (f : Fault)

/-- What the use of an undefined value says. -/
def Absence.reason (why : Absence Value) : Except EvalError String :=
  ((why.message.run ⟨takePlain, []⟩).run (State.initial 0)).map Prod.fst

/-- The failure of an evaluation as that of rendering. -/
def RenderError.ofEval : EvalError → RenderError
  | .refused message => .refused (.described message)
  | .fault f => .fault f
  | .missing why =>
    match why.reason with
    | .ok message => .refused (.described message)
    | .error (.fault f) => .fault f
    | .error _ => .refused (.described why.text)

/-- The program of a source. -/
def Program.ofSource (source : String) : Except RenderError Program :=
  match Parse.template (Token.scan source) with
  | .error (.malformed line) => .error (.refused (.malformed line))
  | .error (.fault f) => .error (.fault f)
  | .ok stmts =>
    match Program.ofStmts stmts with
    | .error (.malformed line) => .error (.refused (.malformed line))
    | .error (.failed e) => .error (.ofEval e)
    | .ok p => .ok p

/-- The text of a source in a context. -/
def render (source : String) (context : Fields Value) : Except RenderError String := do
  let p ← Program.ofSource source
  (p.text context).mapError .ofEval

end NodePools.Template
