import NodePools.Proofs.Contracts
import NodePools.Proofs.StackCalls

/-!
# When a stack is as asked for

The rules by which stacks are applied and waited for, told in words of the service: an
answer describes a stack with a status, a message says a text, a code puts a call off.
`Converges` holds of the events of a stack that was created or updated and then came to be
as asked for, after looks that showed it being worked on.  `Rejected`, `Astray` and
`OutOfTime` are the ways in which a stack does not come to that.

`Fate` is how it goes with a stack that is applied and then waited for.  It goes without an
error only if the stack converges (`Fate.converges`), and each of the other ways leads to
its own error (`Fate.rejected`, `Fate.astray`, `Fate.outOfTime`).
-/

namespace NodePools.Aws.Stacks

variable {τ : Type}

/-! ## What answers say -/

/-- A message says a text: as a part of it or, if the message is none, as an item or a key. -/
inductive Says (needle : String) : Datum → Prop
  | part {s : String} : needle.toList <:+: s.toList → Says needle (.text s)
  | item {items : List Datum} {d : Datum} : d ∈ items → d.same (.text needle) = true →
    Says needle (.list items)
  | key {fields : Fields Datum} : Fields.has fields needle = true → Says needle (.table fields)

/-- A message in which a text can be looked for does not say it. -/
inductive Omits (needle : String) : Datum → Prop
  | part {s : String} : ¬needle.toList <:+: s.toList → Omits needle (.text s)
  | item {items : List Datum} : (∀ d ∈ items, d.same (.text needle) = false) →
    Omits needle (.list items)
  | key {fields : Fields Datum} : Fields.has fields needle = false → Omits needle (.table fields)

theorem says_of_mentions {needle : String} {d : Datum} (h : mentions needle d = .ok true) :
    Says needle d := by
  cases d with
  | text s => exact .part (Text.occursIn_iff.mp (Except.ok.inj h))
  | list items =>
    obtain ⟨d, mem, same⟩ := List.any_eq_true.mp (Except.ok.inj h)
    exact .item mem same
  | table fields => exact .key (Except.ok.inj h)
  | _ => cases h

theorem mentions_of_omits {needle : String} {d : Datum} (h : Omits needle d) :
    mentions needle d = .ok false := by
  cases h with
  | part no => exact congrArg Except.ok (Bool.eq_false_iff.mpr (mt Text.occursIn_iff.mp no))
  | item no =>
    refine congrArg Except.ok (List.any_eq_false.mpr fun d mem => ?_)
    rw [no d mem]
    exact Bool.false_ne_true
  | key no => exact congrArg Except.ok no

/-- An answer describes a stack in the first place, with a status. -/
def Describes (d : Datum) (status : String) : Prop :=
  ∃ answer stack others, d = .table answer ∧
    Fields.get? "Stacks" answer = some (.list (.table stack :: others)) ∧
    Fields.get? "StackStatus" stack = some (.text status)

/-- An answer describes no stack. -/
def DescribesNone (d : Datum) : Prop :=
  ∃ answer, d = .table answer ∧ ((Fields.get? "Stacks" answer).getD (.list [])).truthy = false

theorem lookOf_table (answer : Fields Datum) {found : Datum}
    (of_stacks : (Fields.get? "Stacks" answer).getD (.list []) = found) :
    lookOf (.table answer) =
      if found.truthy then do
        let first ← found.firstItem
        let status ← first.field "StackStatus"
        return some ⟨status, (← first.get? "StackStatusReason").getD (.text "")⟩
      else .ok none := by
  subst of_stacks
  rfl

theorem lookOf_of_describes {d : Datum} {status : String} (h : Describes d status) :
    ∃ reason, lookOf d = .ok (some ⟨.text status, reason⟩) := by
  obtain ⟨answer, stack, others, rfl, of_stacks, told⟩ := h
  have field : (Datum.table stack).field "StackStatus" = .ok (.text status) := by
    rw [Datum.field, told]
  refine ⟨(Fields.get? "StackStatusReason" stack).getD (.text ""), ?_⟩
  rw [lookOf_table answer (congrArg (Option.getD · (.list [])) of_stacks)]
  simp only [Option.getD_some, Datum.truthy, List.isEmpty_cons, Bool.not_false, if_true,
    Datum.firstItem, bind, Except.bind, field, Datum.get?, Datum.entries]
  rfl

theorem lookOf_of_describesNone {d : Datum} (h : DescribesNone d) : lookOf d = .ok none := by
  obtain ⟨answer, rfl, none⟩ := h
  rw [lookOf_table answer rfl, if_neg (Bool.eq_false_iff.mp none)]

theorem table_of_field {d v : Datum} {key : String} (h : d.field key = .ok v) :
    ∃ fields, d = .table fields ∧ Fields.get? key fields = some v := by
  cases d with
  | table fields =>
    rw [Datum.field] at h
    split at h <;> cases h
    next found => exact ⟨fields, rfl, found⟩
  | _ => cases h

theorem list_of_firstItem {d : Datum} {fields : Fields Datum}
    (h : d.firstItem = .ok (.table fields)) :
    ∃ others, d = .list (.table fields :: others) := by
  unfold Datum.firstItem at h
  split at h
  · cases h
    exact ⟨_, rfl⟩
  · cases h
  · split at h <;> cases h
  all_goals cases h

theorem describes_of_lookOf {d reason : Datum} {status : String}
    (h : lookOf d = .ok (some ⟨.text status, reason⟩)) : Describes d status := by
  cases d with
  | table answer =>
    rw [lookOf_table answer rfl] at h
    split at h
    · obtain ⟨first, of_first, h⟩ := bind_eq_ok.mp h
      obtain ⟨told, of_status, h⟩ := bind_eq_ok.mp h
      obtain ⟨why, -, h⟩ := bind_eq_ok.mp h
      cases h
      obtain ⟨stack, rfl, found⟩ := table_of_field of_status
      obtain ⟨others, of_stacks⟩ := list_of_firstItem of_first
      refine ⟨answer, stack, others, rfl, ?_, found⟩
      cases of_answer : Fields.get? "Stacks" answer with
      | none =>
        rw [of_answer] at of_stacks
        cases of_stacks
      | some found =>
        rw [of_answer] at of_stacks
        exact congrArg some of_stacks
    · cases h
  | _ => cases h

/-- An answer to a look that is not the end: the stack is being worked on, or the look is put
off. -/
inductive Unsettled : Except Error Datum → Prop
  | working {d : Datum} {status : String} : Describes d status →
    "_IN_PROGRESS".toList <:+ status.toList → Unsettled (.ok d)
  | throttled {e : ClientError} {code : String} : e.code = some (.text code) →
    code ∈ ["Throttling", "ThrottlingException", "RequestLimitExceeded"] →
    Unsettled (.error (.client e))

/-- An answer that describes one stack, with a status. -/
def described (status : String) : Except Error Datum :=
  .ok (.table [("Stacks", .list [.table [("StackStatus", .text status)]])])

theorem describes_described {status : String} {d : Datum} (h : described status = .ok d) :
    Describes d status := by
  cases h
  exact ⟨_, _, [], rfl, rfl, rfl⟩

theorem codeIsIn_of_code {e : ClientError} {code : String}
    (h : e.code.getD (.text "") = .text code) (codes : List String) :
    e.codeIsIn codes = .ok (codes.contains code) := by
  have told : e.codeText = code := by
    unfold ClientError.codeText
    cases of_code : e.code with
    | none =>
      rw [of_code] at h
      exact Datum.text.inj h
    | some d =>
      rw [of_code] at h
      cases h
      rfl
  rw [ClientError.codeIsIn, h, told]
  rfl

theorem code_of_mem {e : ClientError} {codes : List String} (mem : e.codeText ∈ codes)
    (named : "" ∉ codes) : ∃ code, e.code = some (.text code) ∧ code ∈ codes := by
  unfold ClientError.codeText at mem
  split at mem
  next code of_code => exact ⟨code, of_code, mem⟩
  · exact absurd mem named

theorem pending_of_unsettled {answer : Except Error Datum} (h : Unsettled answer) :
    pending (shown answer) = .ok true := by
  cases h with
  | working described ends =>
    obtain ⟨reason, look⟩ := lookOf_of_describes described
    rw [shown_ok, look]
    exact congrArg Except.ok (Text.finishesWith_iff.mpr ends)
  | throttled of_code mem =>
    have told := codeIsIn_of_code (congrArg (Option.getD · (.text "")) of_code) throttlingCodes
    rw [show List.contains throttlingCodes _ = true from List.contains_iff_mem.mpr mem] at told
    exact told

theorem unsettled_of_pending {answer : Except Error Datum}
    (h : pending (shown answer) = .ok true) : Unsettled answer := by
  cases answer with
  | error e =>
    cases e with
    | client e =>
      obtain ⟨⟨⟩, -, told⟩ := bind_eq_ok.mp (show e.codeIsIn throttlingCodes = .ok true from h)
      have mem : e.codeText ∈ throttlingCodes := List.contains_iff_mem.mp (Except.ok.inj told)
      obtain ⟨code, of_code, mem⟩ := code_of_mem mem (by decide)
      exact .throttled of_code mem
    | _ => cases h
  | ok d =>
    rw [shown_ok] at h
    cases look : lookOf d with
    | error f =>
      rw [look] at h
      cases h
    | ok found =>
      rw [look] at h
      cases found with
      | none => cases h
      | some l =>
        obtain ⟨status, reason⟩ := l
        cases status with
        | text status =>
          exact .working (describes_of_lookOf look) (Text.finishesWith_iff.mp (Except.ok.inj h))
        | _ => cases h

/-- A look is not the end if and only if it answered with something unsettled. -/
theorem pending_iff {answer : Except Error Datum} :
    pending (shown answer) = .ok true ↔ Unsettled answer :=
  ⟨unsettled_of_pending, pending_of_unsettled⟩

/-! ## A stack that is as asked for -/

/-- The calls by which a stack is created, or updated if the service says that it is there;
an update may also say that there is nothing to do. -/
inductive Upserts (name template : String) (tags : Fields Datum) : List (StackEvent τ) → Prop
  | created (d : Datum) : Upserts name template tags [creating name template tags (.ok d)]
  | updated (d : Datum) {e : ClientError} : e.codeText = "AlreadyExistsException" →
    Upserts name template tags
      [creating name template tags (.error (.client e)), updating name template tags (.ok d)]
  | unchanged {e e' : ClientError} : e.codeText = "AlreadyExistsException" →
    Says "No updates are to be performed" e'.detail →
    Upserts name template tags
      [creating name template tags (.error (.client e)),
        updating name template tags (.error (.client e'))]

/-- Looks at a stack, each with the reading of the clock behind it. -/
def looksAt (name : String) (looks : List (Except Error Datum × τ)) : List (StackEvent τ) :=
  looks.flatMap fun (answer, time) => [looking name answer, .clock time]

/-- A stack is looked at until it is as asked for: all looks before the last one were not the
end. -/
def Settles (name : String) (events : List (StackEvent τ)) (status : String) : Prop :=
  ∃ earlier d, events = looksAt name earlier ++ [looking name (.ok d)] ∧
    (∀ look ∈ earlier, Unsettled look.1) ∧ Describes d status ∧
    (status = "CREATE_COMPLETE" ∨ status = "UPDATE_COMPLETE")

variable {name template : String} {tags : Fields Datum} {events : List (StackEvent τ)}

theorem Applies.upserts (applies : Applies name template tags events (.ok ())) :
    Upserts name template tags events := by
  generalize told : Except.ok () = r at applies
  cases applies with
  | created answer _ =>
    rcases answer with e | d
    · cases told
    · exact .created d
  | updated e answer there =>
    rcases answer with e' | d
    · cases e' with
      | client e' =>
        rw [Stacks.updated] at told
        split at told
        next said => exact .unchanged there (says_of_mentions said)
        · cases told
        · cases told
      | _ => cases told
    · exact .updated d there

theorem text_of_same {d : Datum} {s : String} (h : d.same (.text s) = true) : d = .text s := by
  cases d with
  | text a =>
    rw [Datum.same, beq_iff_eq] at h
    rw [h]
  | _ => simp [Datum.same, Datum.number?] at h

theorem describes_of_converged {found : Option Look} {d : Datum} {status : String}
    (look : lookOf d = .ok found) (h : converged name found = .ok status) :
    Describes d status ∧ (status = "CREATE_COMPLETE" ∨ status = "UPDATE_COMPLETE") := by
  cases found with
  | none => cases h
  | some l =>
    rw [converged] at h
    split at h
    next of_list =>
      cases h
      have same := text_of_same (List.find?_some (p := fun s => l.status.same (.text s)) of_list)
      have mem := List.mem_of_find?_eq_some of_list
      obtain ⟨told, reason⟩ := l
      subst same
      refine ⟨describes_of_lookOf look, ?_⟩
      simpa only [convergedStatuses, List.mem_cons, List.not_mem_nil, or_false] using mem
    · cases h

section

variable [Seconds τ] {timeout interval : Number} {status : String}

theorem Polls.settles {start limit pause : τ} {polled : Polled}
    (polls : Polls name start limit pause events polled)
    (ok : verdict name timeout polled = .ok status) :
    Settles name events status := by
  induction polls with
  | unclear answer _ => cases ok
  | settled answer _ =>
    cases answer with
    | error e => cases e <;> cases ok
    | ok d =>
      rw [shown_ok] at ok
      cases look : lookOf d with
      | error f =>
        rw [look] at ok
        cases ok
      | ok found =>
        rw [look] at ok
        obtain ⟨described, as_asked⟩ := describes_of_converged look ok
        exact ⟨[], d, rfl, nofun, described, as_asked⟩
  | timedOut => cases ok
  | again answer time still _ _ ih =>
    obtain ⟨earlier, d, rfl, unsettled, settled⟩ := ih ok
    refine ⟨(answer, time) :: earlier, d, rfl, ?_, settled⟩
    exact List.forall_mem_cons.mpr ⟨pending_iff.mp still, unsettled⟩

theorem Awaits.settles (awaits : Awaits name timeout interval events (.ok status)) :
    ∃ start looks, events = .clock start :: looks ∧ Settles name looks status := by
  generalize told : Except.ok status = r at awaits
  cases awaits with
  | untold f => cases told
  | polled _ _ polls => exact ⟨_, _, rfl, polls.settles told.symm⟩

end

/-- A stack is created or updated, and afterwards comes to be as asked for. -/
def Converges (name : String) (tags : Fields Datum) (events : List (StackEvent τ)) : Prop :=
  ∃ template upserting start looks status, events = upserting ++ .clock start :: looks ∧
    Upserts name template tags upserting ∧ Settles name looks status

/-! ## A stack that is not as asked for -/

/-- The service refuses to create or to update a stack. -/
inductive Rejected (events : List (StackEvent τ)) (e : ClientError) : Prop
  | creation {arguments : Fields Datum} :
    .call "create_stack" arguments (.error (.client e)) ∈ events →
    e.codeText ≠ "AlreadyExistsException" → Rejected events e
  | update {arguments : Fields Datum} :
    .call "update_stack" arguments (.error (.client e)) ∈ events →
    Omits "No updates are to be performed" e.detail → Rejected events e

/-- An answer to a look that is the end, but not with a stack as asked for. -/
inductive Unwanted : Except Error Datum → Prop
  | missing {d : Datum} : DescribesNone d → Unwanted (.ok d)
  | unknown {e : ClientError} {code : String} : e.code.getD (.text "") = .text code →
    code ∉ ["Throttling", "ThrottlingException", "RequestLimitExceeded"] →
    Unwanted (.error (.client e))
  | settled {d : Datum} {status : String} : Describes d status →
    ¬"_IN_PROGRESS".toList <:+ status.toList → status ≠ "CREATE_COMPLETE" →
    status ≠ "UPDATE_COMPLETE" → Unwanted (.ok d)

/-- A look shows that a stack is missing or in a status that was not asked for. -/
def Astray (events : List (StackEvent τ)) : Prop :=
  ∃ arguments answer, .call "describe_stacks" arguments answer ∈ events ∧ Unwanted answer

/-- The time of a reading of the clock. -/
def StackEvent.time? : StackEvent τ → Option τ
  | .clock time => some time
  | .call .. => none

/-- A stack is not yet settled when a look at it is followed by a reading of the clock that
leaves too little of the time since the first reading. -/
def OutOfTime [Seconds τ] (timeout interval : Number) (events : List (StackEvent τ)) : Prop :=
  ∃ start limit pause front arguments answer time back,
    events.findSome? StackEvent.time? = some start ∧
    (Seconds.ofNumber timeout : Except Fault τ) = .ok limit ∧
    (Seconds.ofNumber interval : Except Fault τ) = .ok pause ∧
    events = front ++ .call "describe_stacks" arguments answer :: .clock time :: back ∧
    Unsettled answer ∧ limit ≤ (time - start) + pause

theorem Applies.of_mem {r : Except Error Unit} {event : StackEvent τ}
    (applies : Applies name template tags events r) (mem : event ∈ events) :
    (∃ answer, event = creating name template tags answer ∧
      (r = Stacks.created name answer ∨
        ∃ e, answer = .error (.client e) ∧ e.codeText = existsCode)) ∨
    ∃ answer, event = updating name template tags answer ∧ r = Stacks.updated name answer := by
  cases applies with
  | created answer _ => exact .inl ⟨answer, List.mem_singleton.mp mem, .inl rfl⟩
  | updated e answer there =>
    rcases List.mem_cons.mp mem with rfl | mem
    · exact .inl ⟨_, rfl, .inr ⟨e, rfl, there⟩⟩
    · exact .inr ⟨answer, List.mem_singleton.mp mem, rfl⟩

theorem Applies.no_clock {r : Except Error Unit} {time : τ}
    (applies : Applies name template tags events r) : .clock time ∉ events := by
  intro mem
  rcases applies.of_mem mem with ⟨answer, same, -⟩ | ⟨answer, same, -⟩ <;> cases same

theorem Applies.no_look {r : Except Error Unit} {arguments : Fields Datum}
    {answer : Except Error Datum} (applies : Applies name template tags events r) :
    .call "describe_stacks" arguments answer ∉ events := by
  intro mem
  rcases applies.of_mem mem with ⟨answer, same, -⟩ | ⟨answer, same, -⟩
  · exact absurd (StackEvent.call.inj same).1 (by decide)
  · exact absurd (StackEvent.call.inj same).1 (by decide)

/-- A stack is looked at only behind the calls that apply it. -/
theorem Astray.waiting {r : Except Error Unit} {applying waiting : List (StackEvent τ)}
    (applies : Applies name template tags applying r) (astray : Astray (applying ++ waiting)) :
    Astray waiting := by
  obtain ⟨arguments, answer, mem, unwanted⟩ := astray
  exact ⟨arguments, answer, (List.mem_append.mp mem).resolve_left applies.no_look, unwanted⟩

theorem not_astray_nil : ¬Astray ([] : List (StackEvent τ)) := by
  rintro ⟨arguments, answer, mem, -⟩
  cases mem

/-- To apply a stack fails if the service refuses to create or to update it. -/
theorem Applies.rejected {r : Except Error Unit} {e : ClientError}
    (applies : Applies name template tags events r) (rejected : Rejected events e) :
    r = .error (.stack .apply (.text name) e.detail) := by
  cases rejected with
  | creation mem other =>
    rcases applies.of_mem mem with ⟨answer, same, fate⟩ | ⟨answer, same, -⟩
    · obtain ⟨-, -, rfl⟩ := StackEvent.call.inj same
      rcases fate with rfl | ⟨e', same, there⟩
      · rfl
      · cases same
        exact absurd there other
    · exact absurd (StackEvent.call.inj same).1 (by decide)
  | update mem omits =>
    rcases applies.of_mem mem with ⟨answer, same, -⟩ | ⟨answer, same, rfl⟩
    · exact absurd (StackEvent.call.inj same).1 (by decide)
    · obtain ⟨-, -, rfl⟩ := StackEvent.call.inj same
      have told : mentions noUpdates e.detail = .ok false := mentions_of_omits omits
      rw [Stacks.updated, told]

theorem converged_of_other (name : String) {status : String} (reason : Datum)
    (create : status ≠ "CREATE_COMPLETE") (update : status ≠ "UPDATE_COMPLETE") :
    ∃ why, converged name (some ⟨.text status, reason⟩) =
      .error (.stack .wait (.text name) why) := by
  have found : (convergedStatuses.find? fun s => (Datum.text status).same (.text s)) = none := by
    simp [convergedStatuses, Datum.same, create, update]
  simp only [converged, found]
  exact ⟨_, rfl⟩

/-- A look at a stack that is missing or in a status that was not asked for is the end. -/
theorem verdict_of_unwanted {answer : Except Error Datum} (name : String) (timeout : Number)
    (h : Unwanted answer) : pending (shown answer) = .ok false ∧
      ∃ reason, verdict name timeout (.settled (shown answer)) =
        .error (.stack .wait (.text name) reason) := by
  cases h with
  | missing none =>
    rw [shown_ok, lookOf_of_describesNone none]
    exact ⟨rfl, _, rfl⟩
  | @unknown e code of_code other =>
    have told := codeIsIn_of_code of_code throttlingCodes
    rw [show List.contains throttlingCodes code = false from
      Bool.eq_false_iff.mpr (mt List.contains_iff_mem.mp other)] at told
    exact ⟨told, _, rfl⟩
  | @settled d status described ends create update =>
    obtain ⟨reason, look⟩ := lookOf_of_describes described
    rw [shown_ok, look]
    obtain ⟨why, told⟩ := converged_of_other name reason create update
    exact ⟨congrArg Except.ok (Bool.eq_false_iff.mpr (mt Text.finishesWith_iff.mp ends)), why, told⟩

section

variable [Seconds τ] {timeout interval : Number}

/-- Looks come to an end with the first one that is the end. -/
theorem Polls.settled_of_mem {start limit pause : τ} {polled : Polled} {method : String}
    {arguments : Fields Datum} {answer : Except Error Datum}
    (polls : Polls name start limit pause events polled)
    (mem : .call method arguments answer ∈ events) (ends : pending (shown answer) = .ok false) :
    polled = .settled (shown answer) := by
  induction polls with
  | unclear answer' unclear =>
    obtain ⟨-, -, rfl⟩ := StackEvent.call.inj (List.mem_singleton.mp mem)
    cases ends.symm.trans unclear
  | settled answer' _ =>
    obtain ⟨-, -, rfl⟩ := StackEvent.call.inj (List.mem_singleton.mp mem)
    rfl
  | timedOut answer' time still _ =>
    rcases List.mem_cons.mp mem with same | mem
    · obtain ⟨-, -, rfl⟩ := StackEvent.call.inj same
      cases ends.symm.trans still
    · cases List.mem_singleton.mp mem
  | again answer' time still _ _ ih =>
    rcases List.mem_cons.mp mem with same | mem
    · obtain ⟨-, -, rfl⟩ := StackEvent.call.inj same
      cases ends.symm.trans still
    · exact ih ((List.mem_cons.mp mem).resolve_left nofun)

/-- The time is up as soon as a reading of the clock leaves too little of it. -/
theorem Polls.timedOut_of_mem {start limit pause time : τ} {polled : Polled}
    (polls : Polls name start limit pause events polled) (mem : .clock time ∈ events)
    (up : limit ≤ (time - start) + pause) : polled = .timedOut := by
  induction polls with
  | unclear => cases List.mem_singleton.mp mem
  | settled => cases List.mem_singleton.mp mem
  | timedOut => rfl
  | again answer time' _ left _ ih =>
    rcases List.mem_cons.mp ((List.mem_cons.mp mem).resolve_left nofun) with same | mem
    · cases same
      exact absurd up left
    · exact ih mem

theorem Polls.method_of_mem {start limit pause : τ} {polled : Polled} {method : String}
    {arguments : Fields Datum} {answer : Except Error Datum}
    (polls : Polls name start limit pause events polled)
    (mem : .call method arguments answer ∈ events) : method = "describe_stacks" := by
  induction polls with
  | unclear | settled => exact (StackEvent.call.inj (List.mem_singleton.mp mem)).1
  | timedOut =>
    rcases List.mem_cons.mp mem with same | mem
    · exact (StackEvent.call.inj same).1
    · cases List.mem_singleton.mp mem
  | again _ _ _ _ _ ih =>
    rcases List.mem_cons.mp mem with same | mem
    · exact (StackEvent.call.inj same).1
    · exact ih ((List.mem_cons.mp mem).resolve_left nofun)

variable {r : Except Error String}

theorem Awaits.method_of_mem {method : String} {arguments : Fields Datum}
    {answer : Except Error Datum} (awaits : Awaits name timeout interval events r)
    (mem : .call method arguments answer ∈ events) : method = "describe_stacks" := by
  cases awaits with
  | untold => cases mem
  | polled _ _ polls => exact polls.method_of_mem ((List.mem_cons.mp mem).resolve_left nofun)

theorem Awaits.not_rejected {e : ClientError} (awaits : Awaits name timeout interval events r) :
    ¬Rejected events e := by
  rintro (⟨mem, -⟩ | ⟨mem, -⟩)
  · exact absurd (awaits.method_of_mem mem) (by decide)
  · exact absurd (awaits.method_of_mem mem) (by decide)

theorem Awaits.astray (awaits : Awaits name timeout interval events r) (astray : Astray events) :
    ∃ reason, r = .error (.stack .wait (.text name) reason) := by
  obtain ⟨arguments, answer, mem, unwanted⟩ := astray
  cases awaits with
  | untold => cases mem
  | polled _ _ polls =>
    obtain ⟨ends, told⟩ := verdict_of_unwanted name timeout unwanted
    rw [polls.settled_of_mem ((List.mem_cons.mp mem).resolve_left nofun) ends]
    exact told

/-- A time that can be told in digits is told by the error of a wait that was too long. -/
theorem timedOut_of_wholeText (told : timeout.wholeText?.isSome) :
    Error.timedOut (.text name) (.ofNumber timeout) =
      .stackTimeout (.text name) (.ofNumber timeout) := by
  have number : (Datum.ofNumber timeout).number? = some timeout := by cases timeout <;> rfl
  simp only [Error.timedOut, number, told, if_true]

theorem Awaits.outOfTime (told : timeout.wholeText?.isSome)
    (awaits : Awaits name timeout interval events r) (late : OutOfTime timeout interval events) :
    r = .error (.stackTimeout (.text name) (.ofNumber timeout)) := by
  obtain ⟨start, limit, pause, front, arguments, answer, time, back, first, of_limit, of_pause,
    whole, -, up⟩ := late
  cases awaits with
  | untold => cases first
  | polled of_limit' of_pause' polls =>
    cases first
    cases of_limit.symm.trans of_limit'
    cases of_pause.symm.trans of_pause'
    cases front with
    | nil => cases whole
    | cons event front =>
      obtain ⟨-, rfl⟩ := List.cons.inj whole
      have read : .clock time ∈ .call "describe_stacks" arguments answer :: .clock time :: back :=
        List.mem_cons_of_mem _ List.mem_cons_self
      rw [polls.timedOut_of_mem (List.mem_append_right front read) up, verdict,
        timedOut_of_wholeText told]

/-! ## How it goes with a stack -/

/-- How it goes with a stack that is applied, if it comes so far, and then waited for; and
the error in the end, if there is one. -/
inductive Fate (name : String) (tags : Fields Datum) (timeout interval : Number) :
    List (StackEvent τ) → Option Error → Prop
  | unapplied (e : Error) : Fate name tags timeout interval [] (some e)
  | refused {template : String} {events : List (StackEvent τ)} {e : Error} :
    Applies name template tags events (.error e) → Fate name tags timeout interval events (some e)
  | lost {template : String} {applying waiting : List (StackEvent τ)} {e : Error} :
    Applies name template tags applying (.ok ()) →
    Awaits name timeout interval waiting (.error e) →
    Fate name tags timeout interval (applying ++ waiting) (some e)
  | converged {template : String} {applying waiting : List (StackEvent τ)} {status : String} :
    Applies name template tags applying (.ok ()) →
    Awaits name timeout interval waiting (.ok status) →
    Fate name tags timeout interval (applying ++ waiting) none

variable {failure : Option Error}

/-- What is refused is refused before a stack is waited for. -/
theorem Rejected.applying {r : Except Error String} {applying waiting : List (StackEvent τ)}
    {e : ClientError} (awaits : Awaits name timeout interval waiting r)
    (rejected : Rejected (applying ++ waiting) e) : Rejected applying e := by
  rcases rejected with ⟨mem, other⟩ | ⟨mem, omits⟩
  · rcases List.mem_append.mp mem with mem | mem
    · exact .creation mem other
    · exact absurd (.creation mem other) awaits.not_rejected
  · rcases List.mem_append.mp mem with mem | mem
    · exact .update mem omits
    · exact absurd (.update mem omits) awaits.not_rejected

/-- The clock is read only behind the calls that apply a stack. -/
theorem OutOfTime.waiting {r : Except Error Unit} {applying waiting : List (StackEvent τ)}
    (applies : Applies name template tags applying r)
    (late : OutOfTime timeout interval (applying ++ waiting)) :
    OutOfTime timeout interval waiting := by
  obtain ⟨start, limit, pause, front, arguments, answer, time, back, first, of_limit, of_pause,
    whole, unsettled, up⟩ := late
  have silent : applying.findSome? StackEvent.time? = none := by
    refine List.findSome?_eq_none_iff.mpr fun event mem => ?_
    cases event with
    | call => rfl
    | clock time => exact absurd mem applies.no_clock
  rw [List.findSome?_append, silent] at first
  rcases split_append whole with ⟨_, rfl⟩ | ⟨front', rfl, rest⟩
  · exact absurd (List.mem_append_right _ List.mem_cons_self) applies.no_look
  · exact ⟨start, limit, pause, front', arguments, answer, time, back, first, of_limit, of_pause,
      rest, unsettled, up⟩

theorem not_outOfTime_nil : ¬OutOfTime timeout interval ([] : List (StackEvent τ)) := by
  rintro ⟨_, _, _, _, _, _, _, _, first, -⟩
  cases first

/-- It goes without an error only with a stack that converges. -/
theorem Fate.converges (fate : Fate name tags timeout interval events none) :
    Converges name tags events := by
  cases fate with
  | converged applies awaits =>
    obtain ⟨start, looks, rfl, settles⟩ := awaits.settles
    exact ⟨_, _, start, looks, _, rfl, applies.upserts, settles⟩

theorem Fate.rejected {e : ClientError} (fate : Fate name tags timeout interval events failure)
    (rejected : Rejected events e) : failure = some (.stack .apply (.text name) e.detail) := by
  cases fate with
  | unapplied e => rcases rejected with ⟨mem, -⟩ | ⟨mem, -⟩ <;> cases mem
  | refused applies =>
    cases applies.rejected rejected
    rfl
  | lost applies awaits => cases applies.rejected (rejected.applying awaits)
  | converged applies awaits => cases applies.rejected (rejected.applying awaits)

theorem Fate.astray (fate : Fate name tags timeout interval events failure)
    (astray : Astray events) : ∃ reason, failure = some (.stack .wait (.text name) reason) := by
  cases fate with
  | unapplied e => exact absurd astray not_astray_nil
  | refused applies =>
    rw [← List.append_nil events] at astray
    exact absurd (astray.waiting applies) not_astray_nil
  | lost applies awaits =>
    obtain ⟨reason, same⟩ := awaits.astray (astray.waiting applies)
    cases same
    exact ⟨reason, rfl⟩
  | converged applies awaits =>
    obtain ⟨reason, same⟩ := awaits.astray (astray.waiting applies)
    cases same

theorem Fate.outOfTime (told : timeout.wholeText?.isSome)
    (fate : Fate name tags timeout interval events failure)
    (late : OutOfTime timeout interval events) :
    failure = some (.stackTimeout (.text name) (.ofNumber timeout)) := by
  cases fate with
  | unapplied e => exact absurd late not_outOfTime_nil
  | refused applies =>
    rw [← List.append_nil events] at late
    exact absurd (late.waiting applies) not_outOfTime_nil
  | lost applies awaits =>
    cases awaits.outOfTime told (late.waiting applies)
    rfl
  | converged applies awaits => cases awaits.outOfTime told (late.waiting applies)

end

end NodePools.Aws.Stacks
