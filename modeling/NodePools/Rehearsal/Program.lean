import NodePools.Converter
import NodePools.Text.Hex

/-!
# A converter program that answers as told

Whether the program is found and how it ends is told beforehand.  Its runs are
kept.
-/

namespace NodePools.Rehearsal

/-- One run: the command, what it read, and how long it might have run. -/
structure ProgramRun where
  command : List String
  input : Bytes
  timeout : Option Number

/-- Runs in the order of what they read. -/
def ProgramRun.sorted (runs : List ProgramRun) : List ProgramRun :=
  runs.mergeSort fun a b => Text.Hex.encode a.input ≤ Text.Hex.encode b.input

/-- The program. -/
structure Program where
  found : Bool
  outcome : RunOutcome
  runs : List ProgramRun
  logs : List Record

namespace Program

/-- A program that has not run. -/
def fresh (found : Bool) (outcome : RunOutcome) : Program := ⟨found, outcome, [], []⟩

/-- Answers a request of the converter. -/
def answer : (op : ConverterOp) → Program → op.Answer × Program
  | .find _, p => (p.found, p)
  | .run command input timeout, p =>
    (p.outcome, { p with runs := p.runs ++ [⟨command, input, timeout⟩] })
  | .log record, p => ((), { p with logs := p.logs ++ [record] })

end Program
end NodePools.Rehearsal
