import NodePools.Proofs.Contracts
import NodePools.Proofs.Decommission
import NodePools.Proofs.Listing
import NodePools.Proofs.WellFormed

/-!
# Which errors come out

The errors of services are foreign to this library, and what is done with a client is to turn
them into errors of its own.  Let the answers of the clients be well formed or error answers
(`Sound`).  Then applying, waiting for and deleting a stack, and making buckets and objects,
fail with errors of the library only (`Backend.ensures_meaning`), and so does a pass of
reconciling if its listing does, whatever its scaler fails with (`ensures_reconcile`).

Listing is the exception: an error by which a page is refused is handed on as it is
(`HandsOn`), so that a listing, and a pass that begins with it, fails with errors of the
library if and only if no page is refused (`own_errors_iff_no_page_refused`).
-/

namespace NodePools

/-- What fails, fails with an error of this library. -/
abbrev Own {α : Type} (r : Except Error α) : Prop := FailsBy (fun e => e.isOwn = true) r

namespace Aws

open Prog (Runs Ensures)

variable {τ : Type}

/-- An answer of a client is as it should be: it is well formed, or an error answer; and a
waiter may fail in a way of its own. -/
def Sound : Exchange (Client τ) → Prop
  | ⟨.call _ method _, answer⟩ =>
    (∀ d, method = "describe_stacks" → answer = Except.ok d → Stacks.DescribesStacks d) ∧
      ∀ e, answer = Except.error e →
        (∃ c, e = .client c ∧ c.InTexts) ∨ method = "wait" ∧ ∃ reason, e = .waiter reason
  | ⟨.page .., answer⟩ =>
    (∀ d, answer = Except.ok (some d) → Stacks.DescribesStacks d) ∧
      ∀ e, answer = Except.error e → ∃ c, e = .client c ∧ c.InTexts
  | _ => True

namespace Sound

variable {service method : String} {arguments : Fields Datum} {e : Error}

theorem client (h : Sound (τ := τ) ⟨.call service method arguments, Except.error e⟩)
    (calls : method ≠ "wait") : ∃ c, e = .client c ∧ c.InTexts :=
  (h.2 e rfl).resolve_right fun waits => calls waits.1

end Sound

/-! ## Contracts of the clients -/

namespace Client

variable {α : Type} {sound : Exchange (Client τ) → Prop} {op : ClientOp τ}
  {post : Except Error α → Prop}

theorem ensures_ask_bind {k : op.Answer → Action (Client τ) α}
    (later : ∀ a, sound ⟨op, a⟩ → Ensures sound (k a).outcome post) :
    Ensures sound (ask op >>= k).outcome post := by
  intro tr r run all
  obtain ⟨a, rest, rfl, ran⟩ := runs_ask_bind run
  obtain ⟨here, others⟩ := List.forall_mem_cons.mp all
  exact later a here rest r ran others

theorem ensures_call {service method : String} {arguments : Fields Datum}
    {post : Except Error Datum → Prop}
    (h : ∀ r, sound ⟨.call service method arguments, r⟩ → post r) :
    Ensures sound (call service method arguments : Action (Client τ) Datum).outcome post :=
  .request h

theorem ensures_log {level : Level} {message : String} {post : Except Error Unit → Prop}
    (h : post (.ok ())) :
    Ensures sound (log level message : Action (Client τ) Unit).outcome post := by
  intro tr r run _
  rw [(runs_log run).2]
  exact h

end Client

/-- An action that first reads something that can be read. -/
theorem ensures_read_bind {S : Signature} {α β : Type} {sound : Exchange S → Prop}
    {post : Except Error β → Prop} {x : Except Fault α} {P : α → Prop} {k : α → Action S β}
    (reads : Reads x P) (later : ∀ a, P a → Ensures sound (k a).outcome post) :
    Ensures sound ((liftM x : Action S α) >>= k).outcome post := by
  obtain ⟨a, rfl, of_a⟩ := reads
  intro tr r run all
  rcases runs_fault_bind run with ⟨f, ⟨⟩, -⟩ | ⟨a', same, ran⟩
  cases same
  exact later a of_a tr r ran all

/-! ## Stacks -/

namespace Stacks

theorem ensures_update (name : String) (arguments : Fields Datum) :
    Ensures Sound (update name arguments : Action (Client τ) Unit).outcome Own := by
  refine Client.ensures_ask_bind fun answer sound => ?_
  rcases answer with e | d
  · obtain ⟨c, rfl, texts⟩ := sound.client (by decide)
    refine ensures_read_bind (texts.mentions noUpdates) fun found _ => ?_
    cases found with
    | true => exact Client.ensures_log failsBy_ok
    | false => exact .done (failsBy_error rfl)
  · exact Client.ensures_log failsBy_ok

theorem ensures_apply (region : Datum) (name template : String) (tags : Fields Datum) :
    Ensures Sound (apply region name template tags : Action (Client τ) Unit).outcome Own := by
  refine Client.ensures_ask_bind fun _ _ => Client.ensures_ask_bind fun answer sound => ?_
  rcases answer with e | d
  · obtain ⟨c, rfl, texts⟩ := sound.client (by decide)
    by_cases there : c.codeText = existsCode
    · simp only [if_pos there]
      exact ensures_update name _
    · simp only [if_neg there]
      exact .done (failsBy_error rfl)
  · exact Client.ensures_log failsBy_ok

/-- What a look gives is as it should be: a status that is a text, or an error answer. -/
def ShownWell : Except Error (Option Look) → Prop
  | .ok found => ∀ l ∈ found, ∃ s, l.status = .text s
  | .error e => ∃ c, e = .client c ∧ c.InTexts

theorem ensures_look (name : String) :
    Ensures Sound (look name : Action (Client τ) (Option Look)).outcome ShownWell := by
  have asked : Ensures (Sound (τ := τ))
      (Client.call service "describe_stacks" [("StackName", .text name)]).outcome fun r =>
        Sound (τ := τ) ⟨.call service "describe_stacks" [("StackName", .text name)], r⟩ :=
    Client.ensures_call fun _ sound => sound
  refine Action.ensures_bind asked (fun e sound => sound.client (by decide)) fun d sound => ?_
  obtain ⟨found, read, of_found⟩ := reads_lookOf (sound.1 d rfl rfl)
  rw [read]
  exact .done of_found

theorem ShownWell.reads_pending {r : Except Error (Option Look)} (h : ShownWell r) :
    Reads (pending r) fun _ => True := by
  rcases r with e | found
  · obtain ⟨c, rfl, texts⟩ := h
    exact texts.codeIsIn throttlingCodes
  · cases found with
    | none => exact .ok trivial
    | some l =>
      obtain ⟨s, status⟩ := h l rfl
      rw [pending, status]
      exact .ok trivial

theorem own_converged (name : String) (found : Option Look) : Own (converged name found) := by
  unfold converged
  split
  · exact failsBy_error rfl
  · split
    · exact failsBy_ok
    · exact failsBy_error rfl

theorem ensures_delete (region : Datum) (name : String) :
    Ensures Sound (delete region name : Action (Client τ) Unit).outcome Own := by
  -- whatever goes wrong in a call becomes an error about the stack
  have called (method : String) (arguments : Fields Datum) :
      Ensures Sound (Client.call service method arguments : Action (Client τ) Datum).outcome
        (FailsBy fun e => (deleteError name e).isOwn = true) := by
    refine Client.ensures_call fun r sound e failed => ?_
    rcases sound.2 e failed with ⟨c, rfl, -⟩ | ⟨-, reason, rfl⟩ <;> rfl
  refine Client.ensures_ask_bind fun _ _ => Action.ensures_mapError ?_
  refine Action.ensures_failsBy_bind (called _ _) fun _ => ?_
  refine Action.ensures_failsBy_bind (called _ _) fun _ => ?_
  refine Client.ensures_ask_bind fun _ _ => Client.ensures_ask_bind fun _ _ => ?_
  exact Action.ensures_failsBy_bind (called _ _) fun _ => .done failsBy_ok

variable [Seconds τ]

theorem ensures_poll (name : String) {timeout : Number} (told : timeout.wholeText?.isSome)
    (start limit pause : τ) (looks : Nat) :
    Ensures Sound (poll name start limit pause looks) fun polled =>
      Own (verdict name timeout polled) := by
  induction looks with
  | zero => exact .cut
  | succ looks ih =>
    refine (ensures_look name).bind fun r shown => ?_
    obtain ⟨still, read, -⟩ := shown.reads_pending
    simp only [read]
    cases still with
    | false =>
      refine .done ?_
      rcases r with e | found
      · obtain ⟨c, rfl, -⟩ := shown
        exact failsBy_error rfl
      · exact own_converged name found
    | true =>
      refine Ensures.bind (.request fun _ _ => trivial) fun (time : τ) _ => ?_
      split
      · refine .done ?_
        rw [verdict, timedOut_of_wholeText told]
        exact failsBy_error rfl
      · exact .ask fun _ _ => ih

theorem ensures_wait (looks : Nat) (region : Datum) (name : String) {timeout interval : Number}
    (told : timeout.wholeText?.isSome)
    (of_timeout : Reads (Seconds.ofNumber timeout : Except Fault τ) fun _ => True)
    (of_interval : Reads (Seconds.ofNumber interval : Except Fault τ) fun _ => True) :
    Ensures Sound (wait looks region name timeout interval : Action (Client τ) String).outcome
      Own := by
  refine ensures_read_bind of_timeout fun limit _ => ensures_read_bind of_interval fun pause _ => ?_
  refine Client.ensures_ask_bind fun _ _ => Client.ensures_ask_bind fun (start : τ) _ => ?_
  have polled : Ensures Sound (do
      let polled ← poll name start limit pause looks
      return verdict name timeout polled : Prog (Client τ) (Except Error String)) Own :=
    (ensures_poll name told start limit pause looks).bind fun _ own => .done own
  exact Action.ensures_failsBy_bind polled fun status =>
    Client.ensures_ask_bind fun _ _ => .done failsBy_ok

end Stacks

/-! ## Buckets and objects -/

namespace ObjectStore

theorem ensures_create (region : Datum) (bucket : String) :
    Ensures Sound (create region bucket : Action (Client τ) Unit).outcome Own := by
  refine Client.ensures_ask_bind fun answer sound => ?_
  rcases answer with e | d
  · obtain ⟨c, rfl, texts⟩ := sound.client (by decide)
    refine ensures_read_bind (texts.codeIsIn ownedCodes) fun owned _ => ?_
    split
    · exact .done failsBy_ok
    · exact .done (failsBy_error rfl)
  · exact Client.ensures_log failsBy_ok

theorem ensures_ensureBucket (region : Datum) (bucket : String) :
    Ensures Sound (ensureBucket region bucket : Action (Client τ) Unit).outcome Own := by
  refine Client.ensures_ask_bind fun _ _ => Client.ensures_ask_bind fun answer sound => ?_
  rcases answer with e | d
  · obtain ⟨c, rfl, texts⟩ := sound.client (by decide)
    refine ensures_read_bind (texts.codeIsIn missingCodes) fun missing _ => ?_
    split
    · exact ensures_create region bucket
    · exact .done (failsBy_error rfl)
  · exact .done failsBy_ok

theorem ensures_put (region : Datum) (bucket key : String) (content : Bytes) :
    Ensures Sound (put region bucket key content : Action (Client τ) Unit).outcome Own := by
  refine Client.ensures_ask_bind fun _ _ => Client.ensures_ask_bind fun answer sound => ?_
  rcases answer with e | d
  · obtain ⟨c, rfl, -⟩ := sound.client (by decide)
    exact .done (failsBy_error rfl)
  · exact .done failsBy_ok

end ObjectStore

/-! ## Listing -/

/-- The error by which a page is refused. -/
def pageError? : Exchange (Client τ) → Option Error
  | ⟨.page .., answer⟩ =>
    match (answer : Except Error (Option Datum)) with
    | .error e => some e
    | .ok _ => none
  | _ => none

/-- The errors by which pages are refused. -/
def pageErrors (tr : List (Exchange (Client τ))) : List Error := tr.filterMap pageError?

theorem pageErrors_append (tr₁ tr₂ : List (Exchange (Client τ))) :
    pageErrors (tr₁ ++ tr₂) = pageErrors tr₁ ++ pageErrors tr₂ :=
  List.filterMap_append ..

/-- A page is refused with an error that is not of this library. -/
theorem isOwn_of_pageError {tr : List (Exchange (Client τ))} (sound : ∀ e ∈ tr, Sound e) {e : Error}
    (mem : e ∈ pageErrors tr) : e.isOwn = false := by
  obtain ⟨⟨op, answer⟩, inside, told⟩ := List.mem_filterMap.mp mem
  cases op with
  | page service number =>
    obtain ⟨-, refused⟩ := sound _ inside
    change Except Error (Option Datum) at answer
    cases answer with
    | error _ =>
      cases told
      obtain ⟨c, rfl, -⟩ := refused e rfl
      rfl
    | ok found => cases told
  | _ => cases told

/-- There are no errors, or just the one that a result fails with. -/
def HandedOn {α : Type} (errors : List Error) (r : Except Error α) : Prop :=
  errors = [] ∨ ∃ e, errors = [e] ∧ r = .error e

/-- What hands on the error of a page fails with errors of this library just if no page is
refused. -/
theorem HandedOn.own_iff {α : Type} {r : Except Error α} {tr : List (Exchange (Client τ))}
    (handed : HandedOn (pageErrors tr) r) (sound : ∀ e ∈ tr, Sound e)
    (own : pageErrors tr = [] → Own r) : Own r ↔ pageErrors tr = [] := by
  refine ⟨fun owned => handed.resolve_right ?_, own⟩
  rintro ⟨e, told, rfl⟩
  have foreign := isOwn_of_pageError sound (told ▸ List.mem_singleton_self e)
  cases foreign.symm.trans (owned e rfl)

/-- At most one page is refused to an action, and then the action fails with the error. -/
def HandsOn {α : Type} (x : Action (Client τ) α) : Prop :=
  ∀ tr r, Runs x.outcome tr r → HandedOn (pageErrors tr) r

namespace HandsOn

variable {α β : Type}

theorem of_silent {x : Action (Client τ) α} (silent : Action.Silent pageError? x) : HandsOn x :=
  fun _ _ run => .inl (silent.runs run)

theorem bind {x : Action (Client τ) α} {k : α → Action (Client τ) β} (first : HandsOn x)
    (later : ∀ a, HandsOn (k a)) : HandsOn (x >>= k) := by
  intro tr r run
  rcases Action.runs_bind.mp run with ⟨e, rfl, failed⟩ | ⟨tr₁, a, tr₂, rfl, done, rest⟩
  · rcases first tr _ failed with none | ⟨e', told, ⟨⟩⟩
    · exact .inl none
    · exact .inr ⟨e, told, rfl⟩
  · rcases first tr₁ _ done with none | ⟨e', -, ⟨⟩⟩
    rw [pageErrors_append, none]
    exact later a tr₂ r rest

theorem page (service : String) (number : Nat) :
    HandsOn (Client.page service number : Action (Client τ) _) := by
  intro tr r run
  obtain rfl := Client.runs_page.mp run
  cases r with
  | error e => exact .inr ⟨e, rfl, rfl⟩
  | ok found => exact .inl rfl

end HandsOn

/-- An answer is as it should be, and refuses no page. -/
def Answered (e : Exchange (Client τ)) : Prop := Sound e ∧ pageError? e = none

theorem answered_of_sound {tr : List (Exchange (Client τ))} (sound : ∀ e ∈ tr, Sound e)
    (none : pageErrors tr = []) : ∀ e ∈ tr, Answered e :=
  fun e mem => ⟨sound e mem, List.filterMap_eq_nil_iff.mp none e mem⟩

namespace Stacks

theorem ensures_collect (wanted : Fields Datum) (pages number : Nat) :
    Ensures Answered (collect wanted pages number : Action (Client τ) _).outcome Own := by
  induction pages generalizing number with
  | zero => exact .cut
  | succ pages ih =>
    have asked : Ensures (Answered (τ := τ)) (Client.page service number).outcome fun r =>
        Answered (τ := τ) ⟨.page service number, r⟩ := .request fun _ sound => sound
    refine Action.ensures_bind asked (fun e refused => nomatch refused.2) fun found sound => ?_
    cases found with
    | none => exact .done failsBy_ok
    | some page =>
      refine ensures_read_bind (reads_listedOn (sound.1.1 page rfl) wanted) fun here _ => ?_
      exact Action.ensures_failsBy_bind (ih _) fun _ => .done failsBy_ok

theorem handsOn_collect (wanted : Fields Datum) (pages number : Nat) :
    HandsOn (collect wanted pages number : Action (Client τ) _) := by
  induction pages generalizing number with
  | zero => exact .of_silent .cut
  | succ pages ih =>
    refine .bind (.page service number) fun found => ?_
    cases found with
    | none => exact .of_silent .ofExcept
    | some page =>
      exact .bind (.of_silent .ofExcept) fun _ => .bind (ih _) fun _ => .of_silent .ofExcept

end Stacks

theorem Backend.ensures_list (b : Backend) (tags : Tags) :
    Ensures Answered (b.list tags : Action (Client τ) _).outcome Own := by
  refine Action.ensures_failsBy_bind ?_ fun _ => .done failsBy_ok
  exact Client.ensures_ask_bind fun _ _ => Client.ensures_ask_bind fun _ _ =>
    Stacks.ensures_collect _ _ _

/-- A listing hands on the error by which a page is refused. -/
theorem Backend.handsOn_list (b : Backend) (tags : Tags) :
    HandsOn (b.list tags : Action (Client τ) _) := by
  have asked (op : ClientOp τ) (silent : ∀ a, pageError? ⟨op, a⟩ = none) :
      HandsOn (Client.ask op) := .of_silent (Client.silent_ask silent)
  refine .bind (.bind (asked _ fun _ => rfl) fun _ => ?_) fun _ => .of_silent .ofExcept
  exact .bind (asked _ fun _ => rfl) fun _ => Stacks.handsOn_collect _ _ _

/-- To delete a stack asks for no page. -/
theorem silent_delete (region : Datum) (name : String) :
    Action.Silent pageError? (Stacks.delete region name : Action (Client τ) Unit) := by
  have called (method : String) (arguments : Fields Datum) :
      Action.Silent pageError?
        (Client.call Stacks.service method arguments : Action (Client τ) Datum) :=
    Client.silent_call fun _ => rfl
  refine .bind (Client.silent_ask fun _ => rfl) fun _ => .mapError ?_
  refine .bind (called _ _) fun _ => .bind (called _ _) fun _ => ?_
  refine .bind (Client.silent_ask fun _ => rfl) fun _ => ?_
  refine .bind (Client.silent_ask fun _ => rfl) fun _ => .bind (called _ _) fun _ => .ofExcept

/-! ## Requests to the cloud -/

/-- The times with which a stack is to be waited for can be counted and told. -/
def Timely (τ : Type) [Seconds τ] : CloudOp → Prop
  | .wait _ timeout interval => timeout.wholeText?.isSome ∧
    Reads (Seconds.ofNumber timeout : Except Fault τ) (fun _ => True) ∧
    Reads (Seconds.ofNumber interval : Except Fault τ) fun _ => True
  | _ => True

/-- The answer to a request, if it is a failure, fails with an error of this library. -/
def OwnAnswer : (op : CloudOp) → op.Answer → Prop
  | .wait .., r => Own r
  | .list _, r => Own r
  | .ensureBucket _, r | .put .., r | .apply .., r | .delete _, r => Own r

section

variable [Seconds τ]

theorem Backend.ensures_meaning (b : Backend) {op : CloudOp} (timely : Timely τ op)
    (other : ∀ tags, op ≠ .list tags) : Ensures Sound (b.meaning (τ := τ) op) (OwnAnswer op) := by
  cases op with
  | ensureBucket bucket => exact ObjectStore.ensures_ensureBucket b.region bucket
  | put bucket key content => exact ObjectStore.ensures_put b.region bucket key content
  | apply name template tags => exact Stacks.ensures_apply b.region name template _
  | wait name timeout interval =>
    exact Stacks.ensures_wait b.looks b.region name timely.1 timely.2.1 timely.2.2
  | list tags => exact absurd rfl (other tags)
  | delete name => exact Stacks.ensures_delete b.region name

/-- If no page is refused, every request fails with errors of this library only. -/
theorem Backend.ensures_answered (b : Backend) {op : CloudOp} (timely : Timely τ op) :
    Ensures Answered (b.meaning (τ := τ) op) (OwnAnswer op) := by
  by_cases listing : ∃ tags, op = .list tags
  · obtain ⟨tags, rfl⟩ := listing
    exact b.ensures_list tags
  · exact (b.ensures_meaning timely fun tags same => listing ⟨tags, same⟩).mono
      (fun _ answered => answered.1) fun _ own => own

end

/-! ## Reconciling -/

theorem isOwn_drainError (pool : String) (e : Error) :
    (Provisioner.drainError pool e).isOwn = true := by
  cases e <;> rfl

theorem ensures_service_log {level : Level} {cluster : Option String} {message : String}
    {sound : Exchange Service → Prop} :
    Ensures sound (Service.log level cluster message).outcome Own :=
  fun _ _ run _ => (Service.runs_log run).2 ▸ failsBy_ok

/-- A request to the cloud with times that can be counted fails with errors of this library. -/
def Reliable (τ : Type) [Seconds τ] : Exchange Service → Prop :=
  Exchange.Either (S := Cloud) (T := Site) (fun e => Timely τ e.op → OwnAnswer e.op e.answer)
    fun _ => True

section

variable [Seconds τ]

/-- If the cloud fails with errors of this library only, so does a pass of reconciling,
whatever the scaler fails with. -/
theorem ensures_reconcile (p : Provisioner) :
    Ensures (Reliable τ) p.reconcile.outcome Own := by
  have decommission (x : Stack) : Ensures (Reliable τ) (p.decommission x).outcome Own := by
    refine Action.ensures_failsBy_bind ensures_service_log fun _ => ?_
    refine Action.ensures_failsBy_bind ?_ fun _ => ?_
    · exact Action.ensures_mapError fun _ _ _ _ e _ => isOwn_drainError _ e
    · refine Action.ensures_failsBy_bind ensures_service_log fun _ => ?_
      exact .request fun _ reliable => reliable trivial
  refine Action.ensures_failsBy_bind (.request fun _ reliable => reliable trivial) fun live => ?_
  have all : Ensures (Reliable τ) ((orphans live p.cluster.pools).forM p.decommission).outcome
      Own := Action.ensures_forM fun x _ => decommission x
  dsimp only
  split
  · exact Action.ensures_failsBy_bind ensures_service_log fun _ => all
  · exact all

/-- If no page is refused, a pass over the clients fails with errors of this library only. -/
theorem Backend.ensures_reconcile (b : Backend) (p : Provisioner) :
    Ensures (Exchange.Either (T := Site) (Answered (τ := τ)) fun _ => True)
      (b.overClients p.reconcile.outcome) Own := by
  refine (Aws.ensures_reconcile (τ := τ) p).interpret fun op => ?_
  rcases op with op | op
  · by_cases timely : Timely τ op
    · exact (b.ensures_answered timely).inFirst.mono (fun _ sound => sound) fun _ own _ => own
    · exact fun _ _ _ _ told => absurd told timely
  · exact fun _ _ _ _ => trivial

theorem forall_ofFirst {S T : Signature} {P : Exchange S → Prop} {tr : List (Exchange (S.sum T))} :
    (∀ e ∈ tr, Exchange.Either P (fun _ => True) e) ↔ ∀ e ∈ ofFirst tr, P e := by
  constructor
  · intro all e mem
    obtain ⟨⟨op | op, answer⟩, inside, told⟩ := List.mem_filterMap.mp mem
    · cases told
      exact all _ inside
    · cases told
  · rintro all ⟨op | op, answer⟩ mem
    · exact all _ (List.mem_filterMap.mpr ⟨_, mem, rfl⟩)
    · trivial

/-- The errors by which pages are refused while a request of a pass is served: if a listing
fails, there may be its error.  Of other requests than those of a pass nothing is said. -/
def Refuses : Exchange Service → List Error → Prop
  | ⟨.inl (.list _), answer⟩, errors => HandedOn errors answer
  | ⟨.inl (.delete _), _⟩, errors | ⟨.inr _, _⟩, errors => errors = []
  | _, _ => True

theorem refuses_of_meaning {b : Backend} {op : CloudOp} {answer : op.Answer}
    {tr : List (Exchange (Client τ))} (run : Runs (b.meaning op) tr answer) :
    Refuses (.cloud op answer) (pageErrors tr) := by
  cases op with
  | list tags => exact b.handsOn_list tags tr answer run
  | delete name => exact (silent_delete b.region name).runs run
  | _ => trivial

theorem refuses_overClients {b : Backend} {α : Type} {p : Prog Service α}
    {tr : List (Exchange ((Client τ).sum Site))} {a : α} (run : Runs (b.overClients p) tr a) :
    ∃ es, Runs p es a ∧ InParts Refuses (calls es) (pageErrors (ofFirst tr)) := by
  obtain ⟨es, ran, refines⟩ := Prog.runs_interpret.mp run
  refine ⟨es, ran, ?_⟩
  rw [pageErrors, ofFirst, List.filterMap_filterMap]
  refine (refines.filterMap fun e part ran => ?_).filter fun e part refuses silent => ?_
  · rw [← List.filterMap_filterMap]
    obtain ⟨op | op, answer⟩ := e
    · obtain ⟨es, asked, rfl⟩ := Prog.runs_inFirst ran
      rw [← ofFirst, ofFirst_map_inFirst]
      exact refuses_of_meaning asked
    · obtain rfl := Prog.runs_inSecond_request ran
      exact rfl
  · obtain ⟨op | op, answer⟩ := e
    · cases silent
    · exact refuses

/-- A pass hands on the error by which a page of its listing is refused, and asks for no other
pages. -/
theorem handedOn_reconcile {b : Backend} {p : Provisioner}
    {tr : List (Exchange ((Client τ).sum Site))} {r : Except Error Unit}
    (run : Runs (b.overClients p.reconcile.outcome) tr r) :
    HandedOn (pageErrors (ofFirst tr)) r := by
  obtain ⟨es, ran, parts⟩ := refuses_overClients run
  rcases runs_reconcile ran with ⟨e, rfl, rfl⟩ | ⟨live, rest, rfl, taken⟩
  · rcases parts.singleton with none | ⟨e', told, ⟨⟩⟩
    · exact .inl none
    · exact .inr ⟨e, told, rfl⟩
  · generalize pageErrors (ofFirst tr) = errors at parts
    cases parts with
    | cons listing later =>
      rcases listing with rfl | ⟨e, -, ⟨⟩⟩
      refine .inl (later.eq_nil fun e mem part refuses => ?_)
      obtain ⟨x, -, answer, rfl | rfl⟩ := taken.of_mem mem
      · exact refuses
      · exact refuses

/-- Let every answer of the clients be well formed or an error answer.  Then every request to
the cloud that is no listing fails with errors of this library only; and listings, as well as
passes of reconciling with whatever scaler, do so if and only if no page is refused. -/
theorem own_errors_iff_no_page_refused (b : Backend) :
    (∀ op tr r, (∀ tags, op ≠ .list tags) → Timely τ op → Runs (b.meaning (τ := τ) op) tr r →
      (∀ e ∈ tr, Sound e) → OwnAnswer op r) ∧
    (∀ tags (tr : List (Exchange (Client τ))) r, Runs (b.meaning (.list tags)) tr r →
      (∀ e ∈ tr, Sound e) → (OwnAnswer (.list tags) r ↔ pageErrors tr = [])) ∧
    ∀ (p : Provisioner) (tr : List (Exchange ((Client τ).sum Site))) r,
      Runs (b.overClients p.reconcile.outcome) tr r → (∀ e ∈ ofFirst tr, Sound e) →
      (Own r ↔ pageErrors (ofFirst tr) = []) := by
  refine ⟨fun op tr r other timely run sound => b.ensures_meaning timely other tr r run sound,
    fun tags tr r run sound => ?_, fun p tr r run sound => ?_⟩
  · refine (b.handsOn_list tags tr r run).own_iff sound fun none => ?_
    exact b.ensures_list tags tr r run (answered_of_sound sound none)
  · refine (handedOn_reconcile run).own_iff sound fun none => ?_
    exact b.ensures_reconcile p tr r run (forall_ofFirst.mpr (answered_of_sound sound none))

end

/-! ## A page that is refused, and a scaler that fails -/

/-- What a service says to a call that comes too soon after others. -/
def rateExceeded : ClientError :=
  ⟨"DescribeStacks", some (.text "Throttling"), some (.text "Rate exceeded"), none⟩

/-- A listing whose first page is refused. -/
def refusedListing : List (Exchange (Client Number)) :=
  [⟨.reuse Stacks.service (.text "eu-central-1"), ()⟩,
    ⟨.paginate Stacks.service "describe_stacks", ()⟩,
    ⟨.page Stacks.service 0, Except.error (.client rateExceeded)⟩]

/-- When the first page is refused, the listing fails with the error of the service. -/
theorem refusedListing_not_own :
    Runs ((⟨.text "eu-central-1", 5⟩ : Backend).meaning (.list (Tags.owner "kube-1")))
      refusedListing (Except.error (.client rateExceeded)) ∧
    (∀ e ∈ refusedListing, Sound e) ∧
    ¬OwnAnswer (.list (Tags.owner "kube-1")) (Except.error (.client rateExceeded)) := by
  refine ⟨?_, ?_, fun own => ?_⟩
  · iterate 3 refine .ask _ ?_
    exact .done _
  · refine List.forall_mem_cons.mpr ⟨trivial, List.forall_mem_cons.mpr ⟨trivial,
      List.forall_mem_singleton.mpr ⟨nofun, ?_⟩⟩⟩
    rintro e ⟨⟩
    refine ⟨rateExceeded, rfl, ?_, ?_⟩ <;> rintro d ⟨⟩ <;> exact ⟨_, rfl⟩
  · cases own _ rfl

/-- A page with the stack of a pool that is no longer desired. -/
def oldPage : Datum :=
  .table [("Stacks", .list [.table [("StackName", .text "nodepool-old-kube"),
    ("StackStatus", .text "CREATE_COMPLETE"),
    ("Tags", .list ((Tags.encode "kube" (.identified "old" "worker")).map fun (k, v) =>
      .table [("Key", .text k), ("Value", .text v)]))]])]

/-- A world with one stack in which nothing can be scaled. -/
def unscalable : Handler ((Client Number).sum Site) Unit
  | .inl (.page _ number), s => (Except.ok (if number = 0 then some oldPage else none), s)
  | .inl (.call ..), s => (Except.ok (.table []), s)
  | .inl .now, s => (Number.whole 0, s)
  | .inl (.connect ..), s | .inl (.reuse ..), s | .inl (.paginate ..), s | .inl (.waiter ..), s
  | .inl (.sleep _), s | .inl (.log _), s => ((), s)
  | .inr (.scale ..), s => (Except.error (.fault ⟨.runtime, "no capacity"⟩), s)
  | .inr (.instanceInfo _), s => (Except.ok none, s)
  | .inr (.convert _), s => (Except.ok [], s)
  | .inr (.log _), s => ((), s)

theorem describesStacks_oldPage : Stacks.DescribesStacks oldPage := by
  refine ⟨_, rfl, ?_⟩
  rintro _ ⟨⟩
  refine ⟨_, rfl, List.forall_mem_singleton.mpr ⟨_, rfl, ⟨_, rfl⟩, ⟨_, rfl⟩, ?_⟩⟩
  rintro _ ⟨⟩
  refine ⟨_, rfl, fun i mem => ?_⟩
  obtain ⟨tag, -, rfl⟩ := List.mem_map.mp mem
  exact ⟨_, rfl, _, rfl⟩

theorem answered_unscalable (op : ((Client Number).sum Site).Op) (s : Unit) :
    Exchange.Either (S := Client Number) (T := Site) Answered (fun _ => True)
      ⟨op, (unscalable op s).1⟩ := by
  rcases op with op | op
  · cases op with
    | call => exact ⟨⟨by rintro d - ⟨⟩; exact ⟨_, rfl, nofun⟩, nofun⟩, rfl⟩
    | page service number =>
      refine ⟨⟨fun d told => ?_, nofun⟩, rfl⟩
      have given : (if number = 0 then some oldPage else none) = some d := Except.ok.inj told
      split at given <;> cases given
      exact describesStacks_oldPage
    | _ => exact ⟨trivial, rfl⟩
  · trivial

/-- Whether a run failed with an error about scaling. -/
def failedToScale : Option (Except Error Unit) → Bool
  | some (.error (.scaling _)) => true
  | _ => false

set_option maxRecDepth 100000 in
/-- A pass whose scaler fails with a fault fails with an error about scaling. -/
theorem unscalable_own : ∃ tr r,
    Runs ((⟨.text "eu-central-1", 5⟩ : Backend).overClients twoWorkers.reconcile.outcome) tr r ∧
    (∀ e ∈ ofFirst tr, Sound (τ := Number) e) ∧ pageErrors (ofFirst tr) = [] ∧
    (∃ cause, r = .error (.scaling cause)) ∧ Own r := by
  have failed : failedToScale (((⟨.text "eu-central-1", 5⟩ : Backend).overClients
      twoWorkers.reconcile.outcome).run unscalable ()).1 := by decide +kernel
  rcases told : ((⟨.text "eu-central-1", 5⟩ : Backend).overClients
      twoWorkers.reconcile.outcome).run unscalable () with ⟨_ | r, ⟨⟩⟩
  · rw [told] at failed
    cases failed
  · rw [told] at failed
    obtain ⟨tr, run, plays⟩ := Prog.run_eq_some_iff.mp told
    have answered := forall_ofFirst.mp (plays.forall_mem answered_unscalable)
    have sound : ∀ e ∈ ofFirst tr, Sound e := fun e mem => (answered e mem).1
    have none : pageErrors (ofFirst tr) = [] :=
      List.filterMap_eq_nil_iff.mpr fun e mem => (answered e mem).2
    have scaling : ∃ cause, r = .error (.scaling cause) := by
      unfold failedToScale at failed
      split at failed
      next cause same => exact ⟨cause, Option.some.inj same⟩
      · cases failed
    exact ⟨tr, r, run, sound, none, scaling,
      ((own_errors_iff_no_page_refused _).2.2 twoWorkers tr r run sound).mpr none⟩

end Aws
end NodePools
