import NodePools.Aws.ObjectStore
import NodePools.Aws.Stacks
import NodePools.Proofs.Trace

/-!
# What is asked of the service of the stacks

Of a trace of the clients, what tells of stacks are the calls to their service and the
readings of the clock (`stackEvents`).  `Applies`, `Awaits` and `Deletes` are the rules by
which a stack is applied, waited for and deleted, told by these events and what comes of
them: one call that creates it, and a second one that updates it if it is there; then looks,
each with a reading of the clock behind it up to the last one; and to delete it, one call
that takes its protection, one that deletes it, and one that waits until it is gone.  Whatever
is answered, the programs follow these rules (`Stacks.runs_apply`, `Stacks.runs_wait`,
`Stacks.runs_delete`).

The object store asks nothing of the stacks (`ObjectStore.quiet_put`).
-/

namespace NodePools.Aws

open Prog (Cuts Runs Uncut)

/-- What a trace tells of stacks: a call to their service with its answer, or a reading of
the clock. -/
inductive StackEvent (τ : Type) where
  | call (method : String) (arguments : Fields Datum) (answer : Except Error Datum)
  | clock (time : τ)

variable {τ : Type}

/-- What an exchange tells of stacks. -/
def stackEvent? : Exchange (Client τ) → Option (StackEvent τ)
  | ⟨.call service method arguments, answer⟩ =>
    if service = Stacks.service then some (.call method arguments answer) else none
  | ⟨.now, time⟩ => some (.clock time)
  | _ => none

/-- What a trace of the clients tells of stacks. -/
def stackEvents (tr : List (Exchange (Client τ))) : List (StackEvent τ) := tr.filterMap stackEvent?

@[simp] theorem stackEvents_nil : stackEvents ([] : List (Exchange (Client τ))) = [] := rfl

@[simp] theorem stackEvents_append (tr₁ tr₂ : List (Exchange (Client τ))) :
    stackEvents (tr₁ ++ tr₂) = stackEvents tr₁ ++ stackEvents tr₂ :=
  List.filterMap_append ..

/-- An error answer with a code and a message. -/
def refusal (code message : String) : Except Error Datum :=
  .error (.client ⟨"", some (.text code), some (.text message), none⟩)

theorem stackEvents_call (method : String) (arguments : Fields Datum)
    (answer : Except Error Datum) (tr : List (Exchange (Client τ))) :
    stackEvents ([⟨.call Stacks.service method arguments, answer⟩] ++ tr) =
      .call method arguments answer :: stackEvents tr := rfl

namespace Client

variable {α : Type} {tr : List (Exchange (Client τ))} {r : Except Error α}

theorem runs_ask {op : ClientOp τ} {r : Except Error op.Answer} :
    Runs (ask op).outcome tr r ↔ ∃ a, r = .ok a ∧ tr = [⟨op, a⟩] :=
  Action.runs_lift.trans
    (exists_congr fun _ => and_congr_right fun _ => Prog.runs_request (S := Client τ))

/-- An action that first asks a request that cannot fail. -/
theorem runs_ask_bind {op : ClientOp τ} {k : op.Answer → Action (Client τ) α}
    (run : Runs (ask op >>= k).outcome tr r) :
    ∃ a rest, tr = [⟨op, a⟩] ++ rest ∧ Runs (k a).outcome rest r := by
  rcases Action.runs_bind.mp run with ⟨e, rfl, asked⟩ | ⟨tr₁, a, rest, rfl, asked, later⟩
  · obtain ⟨a, failed, -⟩ := runs_ask.mp asked
    cases failed
  · obtain ⟨a, same, rfl⟩ := runs_ask.mp asked
    cases same
    exact ⟨a, rest, rfl, later⟩

theorem runs_attempt_bind {method : String} {arguments : Fields Datum}
    {k : Except Error Datum → Action (Client τ) α}
    (run : Runs (attempt Stacks.service method arguments >>= k).outcome tr r) :
    ∃ answer rest, stackEvents tr = .call method arguments answer :: stackEvents rest ∧
      Runs (k answer).outcome rest r := by
  have asked : Runs (ask (.call Stacks.service method arguments) >>= k).outcome tr r := run
  obtain ⟨answer, rest, rfl, later⟩ := runs_ask_bind asked
  exact ⟨answer, rest, rfl, later⟩

theorem runs_reuse_bind {service : String} {region : Datum} {k : Unit → Action (Client τ) α}
    (run : Runs (reuse service region >>= k).outcome tr r) :
    ∃ rest, stackEvents tr = stackEvents rest ∧ Runs (k ()).outcome rest r := by
  have asked : Runs (ask (.reuse service region) >>= k).outcome tr r := run
  obtain ⟨⟨⟩, rest, rfl, later⟩ := runs_ask_bind asked
  exact ⟨rest, rfl, later⟩

theorem runs_now_bind {k : τ → Action (Client τ) α} (run : Runs (now >>= k).outcome tr r) :
    ∃ time rest, stackEvents tr = .clock time :: stackEvents rest ∧
      Runs (k time).outcome rest r := by
  have asked : Runs (ask .now >>= k).outcome tr r := run
  obtain ⟨time, rest, rfl, later⟩ := runs_ask_bind asked
  exact ⟨time, rest, rfl, later⟩

theorem uncut_ask (op : ClientOp τ) : Uncut (ask op).outcome :=
  Action.uncut_lift (Uncut.request (S := Client τ) op)

/-- What follows such a request is cut off behind it. -/
theorem cuts_ask_bind {op : ClientOp τ} {k : op.Answer → Action (Client τ) α}
    (cuts : Cuts (ask op >>= k).outcome tr) :
    ∃ a rest, tr = [⟨op, a⟩] ++ rest ∧ Cuts (k a).outcome rest := by
  obtain ⟨tr₁, a, rest, rfl, asked, later⟩ := Action.cuts_later (uncut_ask op) cuts
  obtain ⟨_, same, rfl⟩ := runs_ask.mp asked
  cases same
  exact ⟨a, rest, rfl, later⟩

theorem uncut_call (service method : String) (arguments : Fields Datum) :
    Uncut (call service method arguments : Action (Client τ) Datum).outcome :=
  Uncut.request (S := Client τ) _

theorem uncut_page (service : String) (number : Nat) :
    Uncut (page service number : Action (Client τ) _).outcome :=
  Uncut.request (S := Client τ) _

theorem silent_ask {β : Type} {f : Exchange (Client τ) → Option β} {op : ClientOp τ}
    (silent : ∀ a, f ⟨op, a⟩ = none) : Action.Silent f (ask op) := by
  refine .single (uncut_ask op) (fun run => ?_) silent
  obtain ⟨a, -, rfl⟩ := runs_ask.mp run
  exact ⟨a, rfl⟩

theorem runs_call {service method : String} {arguments : Fields Datum} {r : Except Error Datum} :
    Runs (call service method arguments : Action (Client τ) Datum).outcome tr r ↔
      tr = [⟨.call service method arguments, r⟩] :=
  Prog.runs_request

/-- A call behind which an action comes to a value was accepted. -/
theorem runs_call_bind_ok {service method : String} {arguments : Fields Datum}
    {k : Datum → Action (Client τ) α} {a : α}
    (run : Runs (call service method arguments >>= k).outcome tr (.ok a)) :
    ∃ d rest, tr = [⟨.call service method arguments, .ok d⟩] ++ rest ∧
      Runs (k d).outcome rest (.ok a) := by
  obtain ⟨tr₁, d, rest, rfl, called, later⟩ := Action.runs_bind_ok.mp run
  obtain rfl := runs_call.mp called
  exact ⟨d, rest, rfl, later⟩

/-- A call behind which an action is cut off was accepted. -/
theorem cuts_call_bind {service method : String} {arguments : Fields Datum}
    {k : Datum → Action (Client τ) α}
    (cuts : Cuts (call service method arguments >>= k).outcome tr) :
    ∃ d rest, tr = [⟨.call service method arguments, .ok d⟩] ++ rest ∧
      Cuts (k d).outcome rest := by
  obtain ⟨tr₁, d, rest, rfl, called, later⟩ :=
    Action.cuts_later (uncut_call service method arguments) cuts
  obtain rfl := runs_call.mp called
  exact ⟨d, rest, rfl, later⟩

theorem silent_call {β : Type} {f : Exchange (Client τ) → Option β} {service method : String}
    {arguments : Fields Datum} (silent : ∀ a, f ⟨.call service method arguments, a⟩ = none) :
    Action.Silent f (call service method arguments) :=
  .single (uncut_call service method arguments) (fun run => ⟨_, runs_call.mp run⟩) silent

theorem runs_page {service : String} {number : Nat} {r : Except Error (Option Datum)} :
    Runs (page service number : Action (Client τ) _).outcome tr r ↔
      tr = [⟨.page service number, r⟩] :=
  Prog.runs_request

theorem silent_page {β : Type} {f : Exchange (Client τ) → Option β} {service : String}
    {number : Nat} (silent : ∀ a, f ⟨.page service number, a⟩ = none) :
    Action.Silent f (page service number) :=
  .single (uncut_page service number) (fun run => ⟨_, runs_page.mp run⟩) silent

theorem runs_log {level : Level} {message : String} {r : Except Error Unit}
    (run : Runs (log level message : Action (Client τ) Unit).outcome tr r) :
    stackEvents tr = [] ∧ r = .ok () := by
  obtain ⟨⟨⟩, rfl, rfl⟩ := runs_ask.mp run
  exact ⟨rfl, rfl⟩

end Client

/-- An action that first computes something that may be faulty. -/
theorem runs_fault_bind {S : Signature} {α β : Type} {x : Except Fault α} {k : α → Action S β}
    {tr : List (Exchange S)} {r : Except Error β}
    (run : Runs ((liftM x : Action S α) >>= k).outcome tr r) :
    (∃ f, x = .error f ∧ tr = [] ∧ r = .error (.fault f)) ∨
      ∃ a, x = .ok a ∧ Runs (k a).outcome tr r := by
  rcases Action.runs_bind.mp run with ⟨e, rfl, failed⟩ | ⟨tr₁, a, rest, rfl, made, later⟩
  · obtain ⟨rfl, told⟩ := Prog.runs_done.mp failed
    cases x with
    | error f =>
      cases told
      exact .inl ⟨f, rfl, rfl, rfl⟩
    | ok a => cases told
  · obtain ⟨rfl, told⟩ := Prog.runs_done.mp made
    cases x with
    | error f => cases told
    | ok a =>
      cases told
      exact .inr ⟨a, rfl, later⟩

/-- Such an action comes to a value only with what could be computed. -/
theorem runs_fault_bind_ok {S : Signature} {α β : Type} {x : Except Fault α} {k : α → Action S β}
    {tr : List (Exchange S)} {b : β}
    (run : Runs ((liftM x : Action S α) >>= k).outcome tr (.ok b)) :
    ∃ a, x = .ok a ∧ Runs (k a).outcome tr (.ok b) := by
  rcases runs_fault_bind run with ⟨f, -, -, failed⟩ | later
  · cases failed
  · exact later

/-- Such an action is cut off only where it goes on with what was computed. -/
theorem cuts_fault_bind {S : Signature} {α β : Type} {x : Except Fault α} {k : α → Action S β}
    {tr : List (Exchange S)} (cuts : Cuts ((liftM x : Action S α) >>= k).outcome tr) :
    ∃ a, x = .ok a ∧ Cuts (k a).outcome tr := by
  obtain ⟨tr₁, a, tr₂, rfl, made, later⟩ := Action.cuts_later (Action.uncut_liftM _) cuts
  obtain ⟨rfl, told⟩ := Prog.runs_done.mp made
  cases x with
  | error f => cases told
  | ok b =>
    cases told
    exact ⟨a, rfl, later⟩

namespace Stacks

/-! ## Creating and updating -/

section

variable (name template : String) (tags : Fields Datum)

/-- The call that creates a stack. -/
def creating (answer : Except Error Datum) : StackEvent τ :=
  .call "create_stack"
    (document name template tags ++ [("EnableTerminationProtection", .bool true)]) answer

/-- The call that updates a stack. -/
def updating (answer : Except Error Datum) : StackEvent τ :=
  .call "update_stack" (document name template tags) answer

/-- What becomes of the error of a call that creates or updates a stack. -/
def applyError : Error → Error
  | .client e => .stack .apply (.text name) e.detail
  | e => e

/-- What comes of a call that creates a stack. -/
def created (answer : Except Error Datum) : Except Error Unit :=
  (answer.map fun _ => ()).mapError (applyError name)

/-- What comes of a call that updates a stack.  That nothing changes is no failure. -/
def updated : Except Error Datum → Except Error Unit
  | .error (.client e) =>
    match mentions noUpdates e.detail with
    | .ok true => .ok ()
    | .ok false => .error (.stack .apply (.text name) e.detail)
    | .error f => .error (.fault f)
  | answer => created name answer

/-- How a stack is applied: it is created, or updated if the service says that it is there. -/
inductive Applies : List (StackEvent τ) → Except Error Unit → Prop
  | created (answer : Except Error Datum) :
    (∀ e, answer = .error (.client e) → e.codeText ≠ existsCode) →
    Applies [creating name template tags answer] (created name answer)
  | updated (e : ClientError) (answer : Except Error Datum) : e.codeText = existsCode →
    Applies [creating name template tags (.error (.client e)), updating name template tags answer]
      (updated name answer)

end

variable {name template : String} {tags : Fields Datum} {tr : List (Exchange (Client τ))}

theorem runs_update {r : Except Error Unit}
    (run : Runs (update name (document name template tags) : Action (Client τ) Unit).outcome tr r) :
    ∃ answer, stackEvents tr = [updating name template tags answer] ∧ r = updated name answer := by
  obtain ⟨answer, rest, events, later⟩ := Client.runs_attempt_bind run
  refine ⟨answer, ?_⟩
  rw [events, ← updating]
  rcases answer with e | d
  · cases e with
    | client e =>
      rw [updated]
      rcases runs_fault_bind later with ⟨f, told, rfl, rfl⟩ | ⟨found, told, logged⟩
      · rw [told]
        exact ⟨rfl, rfl⟩
      · rw [told]
        cases found with
        | true =>
          obtain ⟨silent, rfl⟩ := Client.runs_log logged
          rw [silent]
          exact ⟨rfl, rfl⟩
        | false =>
          obtain ⟨rfl, rfl⟩ := Action.runs_throw.mp logged
          exact ⟨rfl, rfl⟩
    | _ =>
      obtain ⟨rfl, rfl⟩ := Action.runs_throw.mp later
      exact ⟨rfl, rfl⟩
  · obtain ⟨silent, rfl⟩ := Client.runs_log later
    rw [silent]
    exact ⟨rfl, rfl⟩

/-- A stack is applied by one call that creates it, or by a second one that updates it. -/
theorem runs_apply {region : Datum} {r : Except Error Unit}
    (run : Runs (apply region name template tags : Action (Client τ) Unit).outcome tr r) :
    Applies name template tags (stackEvents tr) r := by
  obtain ⟨asked, same, made⟩ := Client.runs_reuse_bind run
  obtain ⟨answer, rest, events, later⟩ := Client.runs_attempt_bind made
  rw [same, events, ← creating]
  rcases answer with e | d
  · cases e with
    | client e =>
      by_cases there : e.codeText = existsCode
      · simp only [if_pos there] at later
        obtain ⟨answer, asked, rfl⟩ := runs_update later
        rw [asked]
        exact .updated e answer there
      · simp only [if_neg there] at later
        obtain ⟨rfl, rfl⟩ := Action.runs_throw.mp later
        refine .created (.error (.client e)) fun e' same => ?_
        cases same
        exact there
    | _ =>
      obtain ⟨rfl, rfl⟩ := Action.runs_throw.mp later
      exact .created (.error _) nofun
  · obtain ⟨silent, rfl⟩ := Client.runs_log later
    rw [silent]
    exact .created (.ok d) nofun

/-! ## Waiting -/

section

variable (name : String)

/-- The call that looks at a stack. -/
def looking (answer : Except Error Datum) : StackEvent τ :=
  .call "describe_stacks" [("StackName", .text name)] answer

/-- What the answer to a look shows. -/
def shown (answer : Except Error Datum) : Except Error (Option Look) := do lookOf (← answer)

theorem shown_ok (d : Datum) : shown (.ok d) = (lookOf d).mapError .fault := rfl

variable [Seconds τ] (start limit pause : τ)

/-- How a stack is looked at again and again since a time: after every look that is not the
end, the clock is read, and it is the end if too little of the time is left. -/
inductive Polls : List (StackEvent τ) → Polled → Prop
  | unclear {f : Fault} (answer : Except Error Datum) : pending (shown answer) = .error f →
    Polls [looking name answer] (.settled (.error (.fault f)))
  | settled (answer : Except Error Datum) : pending (shown answer) = .ok false →
    Polls [looking name answer] (.settled (shown answer))
  | timedOut (answer : Except Error Datum) (time : τ) : pending (shown answer) = .ok true →
    limit ≤ (time - start) + pause → Polls [looking name answer, .clock time] .timedOut
  | again {events : List (StackEvent τ)} {polled : Polled} (answer : Except Error Datum)
    (time : τ) : pending (shown answer) = .ok true → ¬limit ≤ (time - start) + pause →
    Polls events polled → Polls (looking name answer :: .clock time :: events) polled

/-- How a stack is waited for: from the time at which the clock is first read. -/
inductive Awaits (timeout interval : Number) : List (StackEvent τ) → Except Error String → Prop
  | untold (f : Fault) : Awaits timeout interval [] (.error (.fault f))
  | polled {start limit pause : τ} {events : List (StackEvent τ)} {polled : Polled} :
    (Seconds.ofNumber timeout : Except Fault τ) = .ok limit →
    (Seconds.ofNumber interval : Except Fault τ) = .ok pause →
    Polls name start limit pause events polled →
    Awaits timeout interval (.clock start :: events) (verdict name timeout polled)

end

theorem runs_look {r : Except Error (Option Look)}
    (run : Runs (look name : Action (Client τ) (Option Look)).outcome tr r) :
    ∃ answer : Except Error Datum,
      tr = [⟨.call service "describe_stacks" [("StackName", .text name)], answer⟩] ∧
        r = shown answer := by
  rcases Action.runs_bind.mp run with ⟨e, rfl, asked⟩ | ⟨tr₁, d, tr₂, rfl, asked, read⟩
  · obtain rfl := Client.runs_call.mp asked
    exact ⟨.error e, rfl, rfl⟩
  · obtain rfl := Client.runs_call.mp asked
    obtain ⟨rfl, rfl⟩ := Prog.runs_done.mp read
    exact ⟨.ok d, rfl, rfl⟩

variable [Seconds τ]

theorem runs_poll {start limit pause : τ} {looks : Nat} {polled : Polled}
    (run : Runs (poll name start limit pause looks) tr polled) :
    Polls name start limit pause (stackEvents tr) polled := by
  induction looks generalizing tr with
  | zero => cases run
  | succ looks ih =>
    obtain ⟨tr₁, r, tr₂, rfl, looked, rest⟩ := Prog.runs_bind.mp run
    obtain ⟨answer, rfl, rfl⟩ := runs_look looked
    rw [stackEvents_call, ← looking]
    cases found : pending (shown answer) with
    | error f =>
      simp only [found] at rest
      obtain ⟨rfl, rfl⟩ := Prog.runs_done.mp rest
      exact .unclear answer found
    | ok still =>
      cases still with
      | false =>
        simp only [found] at rest
        obtain ⟨rfl, rfl⟩ := Prog.runs_done.mp rest
        exact .settled answer found
      | true =>
        simp only [found] at rest
        obtain ⟨tr₃, (time : τ), tr₄, rfl, read, decided⟩ := Prog.runs_bind.mp rest
        obtain rfl := Prog.runs_request.mp read
        by_cases up : limit ≤ (time - start) + pause
        · simp only [if_pos up] at decided
          obtain ⟨rfl, rfl⟩ := Prog.runs_done.mp decided
          exact .timedOut answer time found up
        · simp only [if_neg up] at decided
          obtain ⟨tr₅, ⟨⟩, tr₆, rfl, slept, later⟩ := Prog.runs_bind.mp decided
          obtain rfl := Prog.runs_request.mp slept
          have more : Polls name start limit pause (stackEvents tr₆) polled := ih later
          exact .again answer time found up more

/-- A stack is waited for by looks that are each followed by a reading of the clock, up to
the last one. -/
theorem runs_wait {looks : Nat} {region : Datum} {timeout interval : Number}
    {r : Except Error String}
    (run : Runs (wait looks region name timeout interval : Action (Client τ) String).outcome tr r) :
    Awaits name timeout interval (stackEvents tr) r := by
  rcases runs_fault_bind run with ⟨f, -, rfl, rfl⟩ | ⟨limit, of_limit, paused⟩
  · exact .untold f
  rcases runs_fault_bind paused with ⟨f, -, rfl, rfl⟩ | ⟨pause, of_pause, made⟩
  · exact .untold f
  obtain ⟨timed, silent, made⟩ := Client.runs_reuse_bind made
  obtain ⟨start, polls, read, polled⟩ := Client.runs_now_bind made
  rw [silent, read]
  have answered {tr : List (Exchange (Client τ))} {r : Except Error String}
      (run : Runs (Action.ofAnswer (do
        let polled ← poll name start limit pause looks
        return verdict name timeout polled) : Action (Client τ) String).outcome tr r) :
      Awaits name timeout interval (.clock start :: stackEvents tr) r := by
    obtain ⟨tr₁, polled, tr₂, rfl, polls, said⟩ := Prog.runs_bind.mp run
    obtain ⟨rfl, rfl⟩ := Prog.runs_done.mp said
    rw [List.append_nil]
    exact .polled of_limit of_pause (runs_poll polls)
  rcases Action.runs_bind.mp polled with ⟨e, rfl, failed⟩ | ⟨tr₅, status, tr₆, rfl, found, rest⟩
  · exact answered failed
  · rcases Action.runs_bind.mp rest with ⟨e, rfl, logged⟩ | ⟨tr₇, ⟨⟩, tr₈, rfl, logged, gave⟩
    · cases (Client.runs_log logged).2
    · obtain ⟨rfl, rfl⟩ := Action.runs_pure.mp gave
      rw [stackEvents_append, stackEvents_append, (Client.runs_log logged).1, stackEvents_nil,
        List.append_nil, List.append_nil]
      exact answered found

end Stacks

/-! ## Deleting -/

namespace Stacks

section

variable (name : String)

/-- The call that takes the protection from a stack. -/
def unprotecting (answer : Except Error Datum) : StackEvent τ :=
  .call "update_termination_protection"
    [("StackName", .text name), ("EnableTerminationProtection", .bool false)] answer

/-- The call that deletes a stack. -/
def deleting (answer : Except Error Datum) : StackEvent τ :=
  .call "delete_stack" [("StackName", .text name)] answer

/-- The call that waits until a stack is gone. -/
def awaitingEnd (answer : Except Error Datum) : StackEvent τ :=
  .call "wait" [("StackName", .text name), ("WaiterConfig", .table
    [("Delay", .whole deleteDelay), ("MaxAttempts", .whole deleteAttempts)])] answer

/-- What comes of the last call that is made to delete a stack. -/
def ended (answer : Except Error Datum) : Except Error Unit :=
  (answer.map fun _ => ()).mapError (deleteError name)

/-- How a stack is deleted: its protection is taken from it first, and only then is it deleted
and waited for. -/
inductive Deletes : List (StackEvent τ) → Except Error Unit → Prop
  | keptProtected (e : Error) :
    Deletes [unprotecting name (.error e)] (ended name (.error e))
  | refused (d : Datum) (e : Error) :
    Deletes [unprotecting name (.ok d), deleting name (.error e)] (ended name (.error e))
  | awaited (d d' : Datum) (answer : Except Error Datum) :
    Deletes [unprotecting name (.ok d), deleting name (.ok d'), awaitingEnd name answer]
      (ended name answer)

end

variable {name : String} {tr : List (Exchange (Client τ))}

/-- A stack is deleted by the rule. -/
theorem runs_delete {region : Datum} {r : Except Error Unit}
    (run : Runs (delete region name : Action (Client τ) Unit).outcome tr r) :
    Deletes name (stackEvents tr) r := by
  obtain ⟨rest, silent, made⟩ := Client.runs_reuse_bind run
  rw [silent]
  obtain ⟨r', asked, rfl⟩ := Action.runs_mapError.mp made
  rcases Action.runs_bind.mp asked with ⟨e, rfl, unprotected⟩ |
    ⟨tr₁, d, tr₂, rfl, unprotected, next⟩
  · obtain rfl := Client.runs_call.mp unprotected
    exact .keptProtected e
  obtain rfl := Client.runs_call.mp unprotected
  rcases Action.runs_bind.mp next with ⟨e, rfl, deleted⟩ | ⟨tr₃, d', tr₄, rfl, deleted, later⟩
  · obtain rfl := Client.runs_call.mp deleted
    exact .refused d e
  obtain rfl := Client.runs_call.mp deleted
  obtain ⟨⟨⟩, tr₅, rfl, waiting⟩ := Client.runs_ask_bind later
  obtain ⟨⟨⟩, tr₆, rfl, waits⟩ := Client.runs_ask_bind waiting
  rcases Action.runs_bind.mp waits with ⟨e, rfl, gone⟩ | ⟨tr₇, d'', tr₈, rfl, gone, done⟩
  · obtain rfl := Client.runs_call.mp gone
    exact .awaited d d' (.error e)
  · obtain rfl := Client.runs_call.mp gone
    obtain ⟨rfl, rfl⟩ := Action.runs_pure.mp done
    exact .awaited d d' (.ok d'')

/-- To delete a stack is never cut off. -/
theorem uncut_delete (region : Datum) (name : String) :
    Uncut (delete region name : Action (Client τ) Unit).outcome := by
  refine Action.uncut_bind (Client.uncut_ask _) fun _ => Action.uncut_mapError ?_
  refine Action.uncut_bind (Client.uncut_call ..) fun _ => ?_
  refine Action.uncut_bind (Client.uncut_call ..) fun _ => ?_
  refine Action.uncut_bind (Client.uncut_ask _) fun _ => ?_
  refine Action.uncut_bind (Client.uncut_ask _) fun _ => ?_
  exact Action.uncut_bind (Client.uncut_call ..) fun _ => .done _

end Stacks

/-! ## What is deleted -/

/-- The arguments of a call that deletes a stack. -/
def StackEvent.deletion? : StackEvent τ → Option (Fields Datum)
  | .call method arguments _ => if method = "delete_stack" then some arguments else none
  | .clock _ => none

/-- The arguments of an exchange that deletes a stack, whatever comes of it. -/
def deletion? (e : Exchange (Client τ)) : Option (Fields Datum) :=
  (stackEvent? e).bind StackEvent.deletion?

/-- The arguments of the calls that delete stacks, in the order of the trace. -/
def deletionCalls (tr : List (Exchange (Client τ))) : List (Fields Datum) :=
  tr.filterMap deletion?

theorem deletionCalls_append (tr₁ tr₂ : List (Exchange (Client τ))) :
    deletionCalls (tr₁ ++ tr₂) = deletionCalls tr₁ ++ deletionCalls tr₂ :=
  List.filterMap_append ..

theorem deletionCalls_eq (tr : List (Exchange (Client τ))) :
    deletionCalls tr = (stackEvents tr).filterMap StackEvent.deletion? :=
  List.filterMap_filterMap.symm

/-- To delete a stack is to make one call that does it, unless its protection stays. -/
theorem Stacks.deletionCalls_of_delete {region : Datum} {name : String}
    {tr : List (Exchange (Client τ))} {r : Except Error Unit}
    (run : Runs (Stacks.delete region name : Action (Client τ) Unit).outcome tr r) :
    (deletionCalls tr = [] ∧ r ≠ .ok ()) ∨ deletionCalls tr = [[("StackName", .text name)]] := by
  have deletes := Stacks.runs_delete run
  rw [deletionCalls_eq]
  generalize stackEvents tr = events at deletes
  cases deletes with
  | keptProtected e => exact .inl ⟨rfl, nofun⟩
  | refused | awaited => exact .inr rfl

/-! ## Other services -/

/-- Whatever is answered, an action neither asks anything of the service of the stacks nor
reads the clock. -/
abbrev Quiet {α : Type} (x : Action (Client τ) α) : Prop := Action.Silent stackEvent? x

namespace ObjectStore

theorem quiet_attempt (method : String) (arguments : Fields Datum) :
    Quiet (Client.attempt service method arguments : Action (Client τ) _) :=
  Client.silent_ask fun _ => rfl

theorem quiet_create (region : Datum) (bucket : String) :
    Quiet (create region bucket : Action (Client τ) Unit) := by
  refine .bind (quiet_attempt _ _) fun answer => ?_
  split
  · exact Client.silent_ask fun _ => rfl
  · refine .bind .ofExcept fun owned => ?_
    split <;> exact .ofExcept
  · exact .ofExcept

theorem quiet_ensureBucket (region : Datum) (bucket : String) :
    Quiet (ensureBucket region bucket : Action (Client τ) Unit) := by
  refine .bind (Client.silent_ask fun _ => rfl) fun _ => .bind (quiet_attempt _ _) fun answer => ?_
  split
  · exact .ofExcept
  · refine .bind .ofExcept fun missing => ?_
    split
    · exact quiet_create region bucket
    · exact .ofExcept
  · exact .ofExcept

theorem quiet_put (region : Datum) (bucket key : String) (content : Bytes) :
    Quiet (put region bucket key content : Action (Client τ) Unit) := by
  refine .bind (Client.silent_ask fun _ => rfl) fun _ => .bind (quiet_attempt _ _) fun answer => ?_
  split <;> exact .ofExcept

end ObjectStore
end NodePools.Aws
