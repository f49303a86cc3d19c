import NodePools.Bootstrap
import NodePools.Log
import NodePools.Prog
import NodePools.Text.Blank
import NodePools.Text.Utf8

/-!
# Converting user data

User data is converted by a program that reads it and writes the converted
form.  It is looked up first, runs for a limited time, and says what is wrong
with the user data on its error output.
-/

namespace NodePools

/-- How a program run ends. -/
inductive RunOutcome where
  | timedOut
  | exited (code : Int) (output errors : Bytes)

/-- A request of the converter. -/
inductive ConverterOp where
  | find (binary : String)
  | run (command : List String) (input : Bytes) (timeout : Option Number)
  | log (record : Record)

/-- What answers each. -/
def ConverterOp.Answer : ConverterOp → Type
  | .find _ => Bool
  | .run .. => RunOutcome
  | .log _ => Unit

/-- The requests of the converter. -/
def Converting : Signature := ⟨ConverterOp, ConverterOp.Answer⟩

/-- A converter: the program, whether warnings count as errors, how long it may
run in seconds, and the version of the format that it writes. -/
structure Converter where
  binary : String
  strict : Bool
  timeout : Option Number
  version : String

namespace Converter

/-- The converter unless told otherwise. -/
def standard : Converter := ⟨"butane", true, some (.real 30), Bootstrap.defaultVersion⟩

/-- The command that runs it. -/
def command (c : Converter) : List String :=
  c.binary :: if c.strict then ["--strict"] else []

/-- What to say when the time is up. -/
def timedOutError (c : Converter) : Error :=
  match c.timeout with
  | some t =>
    match t.wholeText? with
    | some seconds => .conversion (.timedOut c.binary seconds)
    | none => .fault .wholeTooLarge
  | none => .fault ⟨.type, "there is no time limit to tell"⟩

/-- Why a program that ended with a code did not convert: what it said without
white space around, or else the code. -/
def refusal (c : Converter) (code : Int) (errors : Bytes) : ConversionFailure :=
  let said := Text.trimWhile Text.isBlank (Text.Utf8.decodeLossy errors).toList
  if said.isEmpty then .exited c.binary code else .described (String.ofList said)

/-- Converts rendered user data. -/
def convert (c : Converter) (rendered : String) : Prog Converting (Except Error Bytes) :=
  .ask (S := Converting) (.find c.binary) fun (found : Bool) =>
    if !found then .done (.error (.conversion (.programNotFound c.binary)))
    else
      .ask (S := Converting) (.run c.command (Text.Utf8.encode rendered) c.timeout)
        fun (outcome : RunOutcome) =>
          match outcome with
          | .timedOut => .done (.error c.timedOutError)
          | .exited code output errors =>
            if code ≠ 0 then .done (.error (.conversion (c.refusal code errors)))
            else
              let said := s!"Converted {rendered.length} bytes of user data"
              .ask (S := Converting) (.log ⟨.debug, none, said⟩) fun _ => .done (.ok output)

end Converter
end NodePools
