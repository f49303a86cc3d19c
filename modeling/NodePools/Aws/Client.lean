import NodePools.Log
import NodePools.Prog

/-!
# Clients of cloud services

A client sends named calls with arguments to a service, and the answer is a
datum or an error.  Lists come page by page.  Time is told and spent by
requests too; its unit is the second, and its type is left open, since what is
said about waiting does not depend on how seconds are counted.
-/

namespace NodePools.Aws

/-- What time is counted in: it can be added, subtracted and compared, and has a
value for the numbers that settings give. -/
class Seconds (τ : Type) extends Add τ, Sub τ, LE τ, LT τ where
  ofNumber : Number → Except Fault τ
  decideLe : DecidableLE τ
  decideLt : DecidableLT τ

instance Seconds.instDecidableLE {τ : Type} [Seconds τ] : DecidableLE τ := Seconds.decideLe
instance Seconds.instDecidableLT {τ : Type} [Seconds τ] : DecidableLT τ := Seconds.decideLt

instance : Seconds Float where
  ofNumber n :=
    match n.toFloat? with
    | some x => .ok x
    | none => .error .wholeTooLarge
  decideLe := inferInstance
  decideLt := inferInstance

instance : Seconds Number where
  ofNumber := .ok
  decideLe := inferInstance
  decideLt := inferInstance

/-- A request to the clients or to the clock. -/
inductive ClientOp (τ : Type) where
  /-- Makes a client of a service in a region, which is as configured. -/
  | connect (service : String) (region : Datum)
  /-- Makes a client of a service in a region unless there is one. -/
  | reuse (service : String) (region : Datum)
  | call (service method : String) (arguments : Fields Datum)
  /-- Starts on the pages of what a method lists. -/
  | paginate (service method : String)
  /-- The page with a number, counted from zero. -/
  | page (service : String) (number : Nat)
  /-- Gets hold of a waiter for a condition. -/
  | waiter (service condition : String)
  | now
  | sleep (duration : τ)
  | log (record : Record)

/-- What answers each.  After the last page there is none. -/
def ClientOp.Answer {τ : Type} : ClientOp τ → Type
  | .call .. => Except Error Datum
  | .page .. => Except Error (Option Datum)
  | .now => τ
  | .connect .. | .reuse .. | .paginate .. | .waiter .. | .sleep _ | .log _ => Unit

/-- The requests to the clients and to the clock. -/
def Client (τ : Type) : Signature := ⟨ClientOp τ, ClientOp.Answer⟩

namespace Client

variable {τ : Type}

/-- Asks a request that cannot fail. -/
def ask (op : ClientOp τ) : Action (Client τ) op.Answer :=
  ExceptT.lift (Prog.request (S := Client τ) op)

/-- Makes a client. -/
def connect (service : String) (region : Datum) : Action (Client τ) Unit :=
  ask (.connect service region)

/-- Makes a client unless there is one. -/
def reuse (service : String) (region : Datum) : Action (Client τ) Unit :=
  ask (.reuse service region)

/-- Sends a call. -/
def call (service method : String) (arguments : Fields Datum) : Action (Client τ) Datum :=
  .ofAnswer (.request (S := Client τ) (.call service method arguments))

/-- Sends a call and gives its outcome. -/
def attempt (service method : String) (arguments : Fields Datum) :
    Action (Client τ) (Except Error Datum) :=
  ExceptT.lift (.request (S := Client τ) (.call service method arguments))

/-- Starts on pages. -/
def paginate (service method : String) : Action (Client τ) Unit := ask (.paginate service method)

/-- A page, or nothing after the last one. -/
def page (service : String) (number : Nat) : Action (Client τ) (Option Datum) :=
  .ofAnswer (.request (S := Client τ) (.page service number))

/-- Gets hold of a waiter. -/
def waiter (service condition : String) : Action (Client τ) Unit := ask (.waiter service condition)

/-- The time. -/
def now : Action (Client τ) τ := ask .now

/-- Lets time pass. -/
def sleep (duration : τ) : Action (Client τ) Unit := ask (.sleep duration)

/-- Makes a log record that is bound to no cluster. -/
def log (level : Level) (message : String) : Action (Client τ) Unit :=
  ask (.log ⟨level, none, message⟩)

end Client
end NodePools.Aws
