import NodePools.Aws.Client
import NodePools.Pairs
import NodePools.Stack

/-!
# Stacks

Stacks over the clients: created or updated, waited for, listed by their tags,
and deleted.  A look at a stack gives its status and a reason.  Waiting looks
again and again until the stack is settled or the time is up, and never sleeps
beyond that time.
-/

namespace NodePools.Aws.Stacks

/-- The service of the stacks. -/
def service : String := "cloudformation"

/-- What a stack is allowed to make. -/
def capabilities : List String := ["CAPABILITY_IAM", "CAPABILITY_NAMED_IAM"]

/-- The statuses of a stack that is as asked for. -/
def convergedStatuses : List String := ["CREATE_COMPLETE", "UPDATE_COMPLETE"]

/-- The status of a stack that is gone. -/
def deletedStatus : String := "DELETE_COMPLETE"

/-- How the status of a stack that is being worked on ends. -/
def workingEnding : String := "_IN_PROGRESS"

/-- The code by which a stack is already there. -/
def existsCode : String := "AlreadyExistsException"

/-- What the service says if an update changes nothing. -/
def noUpdates : String := "No updates are to be performed"

/-- The codes by which a call is put off. -/
def throttlingCodes : List String := ["Throttling", "ThrottlingException", "RequestLimitExceeded"]

/-! ## Creating and updating -/

/-- The arguments that create or update a stack. -/
def document (name template : String) (tags : Fields Datum) : Fields Datum :=
  let entry (e : TagEntry Datum) : Datum :=
    .table [("Key", .text (e.key.getD "")), ("Value", e.value.getD .null)]
  [("StackName", .text name), ("TemplateBody", .text template),
    ("Tags", .list ((Tags.toEntries tags).map entry)),
    ("Capabilities", .list (capabilities.map .text))]

/-- Whether a message holds a text. -/
def mentions (needle : String) : Datum → Except Fault Bool
  | .text s => .ok (Text.occursIn needle.toList s.toList)
  | .list items => .ok (items.any fun d => d.same (.text needle))
  | .table fields => .ok (Fields.has fields needle)
  | d => .error ⟨.type, s!"argument of type '{d.typeName}' is not iterable"⟩

variable {τ : Type}

/-- Updates a stack that is there.  That nothing changes is no failure. -/
def update (name : String) (arguments : Fields Datum) : Action (Client τ) Unit := do
  match ← Client.attempt service "update_stack" arguments with
  | .ok _ => Client.log .info s!"Updating stack {name}"
  | .error (.client e) =>
    if ← mentions noUpdates e.detail then Client.log .debug s!"Stack {name} is up to date"
    else throw (.stack .apply (.text name) e.detail)
  | .error e => throw e

/-- Creates a stack, protected against deletion, or updates it if it is there. -/
def apply (region : Datum) (name template : String) (tags : Fields Datum) : Action (Client τ) Unit := do
  Client.reuse service region
  let arguments := document name template tags
  match ← Client.attempt service "create_stack"
      (arguments ++ [("EnableTerminationProtection", .bool true)]) with
  | .ok _ => Client.log .info s!"Creating stack {name}"
  | .error (.client e) =>
    if e.codeText = existsCode then update name arguments
    else throw (.stack .apply (.text name) e.detail)
  | .error e => throw e

/-! ## Waiting -/

/-- What a look at a stack shows. -/
structure Look where
  status : Datum
  reason : Datum

/-- The stack that an answer describes, if there is one. -/
def lookOf (answer : Datum) : Except Fault (Option Look) := do
  let found := (← answer.get? "Stacks").getD (.list [])
  if found.truthy then
    let first ← found.firstItem
    let status ← first.field "StackStatus"
    return some ⟨status, (← first.get? "StackStatusReason").getD (.text "")⟩
  else return none

/-- Looks at a stack. -/
def look (name : String) : Action (Client τ) (Option Look) := do
  let answer ← Client.call service "describe_stacks" [("StackName", .text name)]
  lookOf answer

/-- Whether a status is that of a stack being worked on. -/
def working : Datum → Except Fault Bool
  | .text s => .ok (Text.finishesWith workingEnding.toList s.toList)
  | .bytes _ => .error ⟨.type, "the end of bytes was compared with a text"⟩
  | d => .error (.noMember d.typeName "endswith")

/-- Whether an error only says that the call is put off. -/
def throttled : Error → Except Fault Bool
  | .client e => e.codeIsIn throttlingCodes
  | _ => .ok false

/-- Whether what a look gave is not the end yet. -/
def pending : Except Error (Option Look) → Except Fault Bool
  | .ok (some l) => working l.status
  | .ok none => .ok false
  | .error e => throttled e

/-- How looking again and again ends. -/
inductive Polled where
  | settled (result : Except Error (Option Look))
  | timedOut

/-- Looks at a stack until it is settled.  After a look that is not the end, the
time is up if the next one would start when the timeout has passed. -/
def poll [Seconds τ] (name : String) (start timeout interval : τ) : Nat → Prog (Client τ) Polled
  | 0 => .cut
  | fuel + 1 => do
    let result ← (look name).outcome
    match pending result with
    | .error f => return .settled (.error (.fault f))
    | .ok false => return .settled result
    | .ok true =>
      let now : τ ← Prog.request (S := Client τ) .now
      if timeout ≤ (now - start) + interval then return .timedOut
      else
        let _ ← Prog.request (S := Client τ) (.sleep interval)
        poll name start timeout interval fuel

/-- The status of a stack that is as asked for, or how it is not. -/
def converged (name : String) : Option Look → Except Error String
  | none => .error (.stack .wait (.text name) (.text "stack does not exist"))
  | some l =>
    match convergedStatuses.find? fun s => l.status.same (.text s) with
    | some status => .ok status
    | none =>
      let detail := if l.reason.truthy then s!": {l.reason.plain}" else ""
      .error (.stack .wait (.text name) (.text s!"reached status {l.status.plain}{detail}"))

/-- The result of waiting for a stack. -/
def verdict (name : String) (timeout : Number) : Polled → Except Error String
  | .timedOut => .error (.timedOut (.text name) (.ofNumber timeout))
  | .settled (.error (.client e)) => .error (.stack .wait (.text name) e.detail)
  | .settled (.error e) => .error e
  | .settled (.ok found) => converged name found

/-- Waits for a stack to be as asked for, at most the timeout, and gives its
status.  At most `looks` looks are taken. -/
def wait [Seconds τ] (looks : Nat) (region : Datum) (name : String) (timeout interval : Number) :
    Action (Client τ) String := do
  let limit ← (Seconds.ofNumber timeout : Except Fault τ)
  let pause ← (Seconds.ofNumber interval : Except Fault τ)
  Client.reuse service region
  let start ← Client.now
  let status ← Action.ofAnswer do
    let polled ← poll name start limit pause looks
    return verdict name timeout polled
  Client.log .debug s!"Stack {name} converged with {status}"
  return status

/-! ## Listing -/

/-- A stack as the service lists it. -/
structure Listed where
  name : Datum
  tags : Pairs
  status : Datum

/-- One tag of a list, with the empty text as its value if it has none.  An entry without
key is no tag. -/
def tagOf? (d : Datum) : Except Fault (Option (Datum × Datum)) :=
  match d with
  | .table fields =>
    .ok ((Fields.get? "Key" fields).map fun k => (k, (Fields.get? "Value" fields).getD (.text "")))
  | .text s =>
    if Text.occursIn "Key".toList s.toList then
      .error ⟨.type, "string indices must be integers, not 'str'"⟩
    else .ok none
  | .list items =>
    if items.any (·.same (.text "Key")) then
      .error ⟨.type, "list indices must be integers or slices, not str"⟩
    else .ok none
  | d => .error ⟨.type, s!"argument of type '{d.typeName}' is not iterable"⟩

/-- The tags of a list. -/
def tagsOf (d : Datum) : Except Fault Pairs := do
  Pairs.ofList (← (← d.items).filterMapM tagOf?)

/-- Whether tags hold all the tags asked for.  A tag that is asked for without
value is held if it is not there. -/
def holdAll (tags : Pairs) (wanted : Fields Datum) : Bool :=
  wanted.all fun (key, value) => ((tags.get? (.text key)).getD .null).same value

/-- A stack of a page, if it is live and has the tags asked for. -/
def listedOf (wanted : Fields Datum) (d : Datum) : Except Fault (Option Listed) := do
  let status ← d.field "StackStatus"
  if status.same (.text deletedStatus) then return none
  else
    let tags ← tagsOf ((← d.get? "Tags").getD (.list []))
    if holdAll tags wanted then return some ⟨← d.field "StackName", tags, status⟩
    else return none

/-- The stacks of a page that are live and have the tags asked for. -/
def listedOn (wanted : Fields Datum) (page : Datum) : Except Fault (List Listed) := do
  let found ← ((← page.get? "Stacks").getD (.list [])).items
  return (← found.mapM (listedOf wanted)).filterMap id

/-- The stacks of the pages from a number on, of which at most `pages` are read. -/
def collect (wanted : Fields Datum) : Nat → Nat → Action (Client τ) (List Listed)
  | 0, _ => ExceptT.mk .cut
  | pages + 1, number => do
    match ← Client.page service number with
    | none => return []
    | some page =>
      let found ← listedOn wanted page
      return found ++ (← collect wanted pages (number + 1))

/-- The live stacks that have the tags asked for, in the order of the pages. -/
def list (pages : Nat) (region : Datum) (wanted : Fields Datum) :
    Action (Client τ) (List Listed) := do
  Client.reuse service region
  Client.paginate service "describe_stacks"
  collect wanted pages 0

/-! ## Deleting -/

/-- The seconds between two looks of the waiter for a deletion. -/
def deleteDelay : Int := 15

/-- How often that waiter looks. -/
def deleteAttempts : Int := 120

/-- What becomes of an error in deleting a stack. -/
def deleteError (name : String) : Error → Error
  | .client e => .stack .delete (.text name) e.detail
  | .waiter reason => .stack .delete (.text name) (.text (Error.waiter reason).message)
  | e => e

/-- Takes the protection from a stack, deletes it, and waits until it is gone. -/
def delete (region : Datum) (name : String) : Action (Client τ) Unit := do
  Client.reuse service region
  Action.mapError (deleteError name) do
    let stack := ("StackName", Datum.text name)
    let _ ← Client.call service "update_termination_protection"
      [stack, ("EnableTerminationProtection", .bool false)]
    let _ ← Client.call service "delete_stack" [stack]
    Client.log .info s!"Deleting stack {name}"
    Client.waiter service "stack_delete_complete"
    let _ ← Client.call service "wait" [stack, ("WaiterConfig", .table [
      ("Delay", .whole deleteDelay), ("MaxAttempts", .whole deleteAttempts)])]
    return ()

end NodePools.Aws.Stacks
