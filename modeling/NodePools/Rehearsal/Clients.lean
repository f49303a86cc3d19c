import NodePools.Aws.Client

/-!
# Clients that answer as told

A script gives for every method, or for a method on one resource, the answers in
the order of the calls; the last one counts for all further calls.  The clock
stands still but for sleeping and for the time that an answer takes.
-/

namespace NodePools.Rehearsal

open NodePools.Aws

/-- How a call is answered. -/
inductive Reply where
  | value (d : Datum)
  /-- An error answer; the operation it names is that of the call unless told
  otherwise. -/
  | refusal (code message retries : Option Datum)
  | waiter (reason : String)
  | failure (e : Error)

/-- The error answer that a whole response holds, or the fault of parts of it that are
no tables. -/
def Reply.ofResponse (response : Fields Datum) : Reply :=
  let part (key : String) : Except Fault (Fields Datum) :=
    ((response.get? key).getD (.table [])).entries "get"
  let read : Except Fault Reply := do
    let metadata ← part "ResponseMetadata"
    let error ← part "Error"
    let reached := ((metadata.get? "MaxAttemptsReached").map Datum.truthy).getD false
    return .refusal (error.get? "Code") (error.get? "Message")
      (if reached then metadata.get? "RetryAttempts" else none)
  match read with
  | .ok reply => reply
  | .error f => .failure (.fault f)

/-- An answer of a script: how long it takes, the name of the operation, if it is
not that of the method, and the reply. -/
structure Entry (τ : Type) where
  latency : Option τ
  operation : Option String
  reply : Reply

/-- The answers by method, or by method and resource. -/
abbrev Script (τ : Type) := Fields (List (Entry τ))

/-- A call with its arguments. -/
structure Call where
  method : String
  arguments : Fields Datum

namespace Call

/-- The text of an argument, if it is given. -/
def argument? (c : Call) (key : String) : Option String := (c.arguments.get? key).map Datum.plain

/-- The resource a call is about: a stack, or else a bucket, with the key of an
object behind it. -/
def resource (c : Call) : Option String :=
  let base := (c.argument? "StackName").or (c.argument? "Bucket")
  match c.argument? "Key" with
  | some key => some (base.getD "" ++ "/" ++ key)
  | none => base

/-- By what calls are sorted whose order among each other is open: the resource
and then, unless it is a stack, the method. -/
def rank (c : Call) : String × String :=
  (c.resource.getD "", if (c.arguments.get? "StackName").isSome then "" else c.method)

/-- Whether a call may stand before another one. -/
def precedes (a b : Call) : Bool :=
  let (r, m) := a.rank
  let (s, n) := b.rank
  if r = s then m ≤ n else r ≤ s

/-- Calls in the order of their ranks. -/
def sorted (calls : List Call) : List Call := calls.mergeSort precedes

end Call

/-- The name of the operation behind a method: its words without the lines
between them, each with a capital. -/
def operationName (method : String) : String :=
  let capital : List Char → List Char
    | [] => []
    | c :: rest => c.toUpper :: rest
  String.ofList ((Text.splitOnText ['_'] method.length method.toList).flatMap capital)

/-- The clients: whether they count their calls together, how often each key of
the script was used, the time, and what was asked. -/
structure Clients (τ : Type) where
  script : Script τ
  shared : Bool
  used : Fields Nat
  clock : τ
  /-- The services that have a client. -/
  present : List String
  made : List (String × Datum)
  calls : List Call
  sleeps : List τ
  logs : List Record

namespace Clients

variable {τ : Type}

/-- Clients that have not been asked anything. -/
def fresh (script : Script τ) (shared : Bool) (clock : τ) (present : List String) : Clients τ :=
  ⟨script, shared, [], clock, present, [], [], [], []⟩

/-- Forgets what was asked before and sets the clock. -/
def rewound (c : Clients τ) (clock : τ) : Clients τ :=
  { c with clock, made := [], calls := [], sleeps := [], logs := [] }

/-- Notes a call. -/
def note (c : Clients τ) (call : Call) : Clients τ := { c with calls := c.calls ++ [call] }

/-- The entry of a script for a key that was used so often before. -/
def entryAt (entries : List (Entry τ)) (uses : Nat) : Entry τ :=
  match entries[uses]? with
  | some e => e
  | none => entries.getLast?.getD ⟨none, none, .value (.table [])⟩

/-- The key under which a call is looked up. -/
def keyOf (c : Clients τ) (call : Call) : String :=
  match call.resource with
  | some resource =>
    let special := call.method ++ "@" ++ resource
    if c.script.has special then special else call.method
  | none => call.method

/-- The reply as the outcome of a call. -/
def outcomeOf (method : String) (e : Entry τ) : Except Error Datum :=
  match e.reply with
  | .value d => .ok d
  | .refusal code message retries =>
    .error (.client ⟨e.operation.getD (operationName method), code, message, retries⟩)
  | .waiter reason => .error (.waiter reason)
  | .failure err => .error err

/-- Lets time pass. -/
def pass [Seconds τ] (c : Clients τ) (duration : Option τ) : Clients τ :=
  match duration with
  | some d => { c with clock := c.clock + d }
  | none => c

/-- Answers a call. -/
def answerCall [Seconds τ] (c : Clients τ) (service : String) (call : Call) :
    Except Error Datum × Clients τ :=
  let key := c.keyOf call
  let counted := (if c.shared then "" else service) ++ " " ++ key
  let uses := (c.used.get? counted).getD 0
  let e := entryAt ((c.script.get? key).getD []) uses
  (outcomeOf call.method e,
    pass { c.note call with used := c.used.set counted (uses + 1) } e.latency)

/-- The pages of a listing. -/
def pages (c : Clients τ) : List (Entry τ) := (c.script.get? "paginate").getD []

/-- Answers a request for a page.  One that fails is noted as a call. -/
def answerPage [Seconds τ] (c : Clients τ) (number : Nat) :
    Except Error (Option Datum) × Clients τ :=
  match c.pages[number]? with
  | none => (.ok none, c)
  | some e =>
    let noted :=
      match e.reply with
      | .value _ => c
      | _ => c.note ⟨"page", []⟩
    ((outcomeOf "page" e).map some, pass noted e.latency)

/-- Makes a client. -/
def make (c : Clients τ) (service : String) (region : Datum) : Clients τ :=
  { c with made := c.made ++ [(service, region)], present := service :: c.present }

/-- A client made at its first use is noted as a call. -/
def makeLate (c : Clients τ) (service : String) (region : Datum) : Clients τ :=
  if c.present.contains service then c
  else
    (c.make service region).note
      ⟨"client", [("service", .text service), ("region", region)]⟩

/-- Answers a request. -/
def answer [Seconds τ] : (op : ClientOp τ) → Clients τ → op.Answer × Clients τ
  | .connect service region, c => ((), c.make service region)
  | .reuse service region, c => ((), c.makeLate service region)
  | .call service method arguments, c => c.answerCall service ⟨method, arguments⟩
  | .paginate _ method, c => ((), c.note ⟨"get_paginator", [("name", .text method)]⟩)
  | .page _ number, c => c.answerPage number
  | .waiter _ condition, c => ((), c.note ⟨"get_waiter", [("name", .text condition)]⟩)
  | .now, c => (c.clock, c)
  | .sleep duration, c => ((), { c with clock := c.clock + duration, sleeps := c.sleeps ++ [duration] })
  | .log record, c => ((), { c with logs := c.logs ++ [record] })

/-- Runs an action as one step from a time on: what was asked before is
forgotten. -/
def step [Seconds τ] {α : Type} (c : Clients τ) (clock : τ) (action : Action (Client τ) α) :
    Option (Except Error α) × Clients τ :=
  action.outcome.run answer (c.rewound clock)

end Clients
end NodePools.Rehearsal
