import NodePools.Aws.Backend
import NodePools.Proofs.Attempt
import NodePools.Proofs.Convergence
import NodePools.Proofs.Interpretation

/-!
# What is asked of the object store

Of a trace of the clients, what tells of objects are the calls to the service of the store
(`storeEvents`).  `Ensures` is the rule by which a bucket is made unless it is there: a look at
it first, and a call that makes it only if the look told that it is missing.  `PublishesBy` is
the rule by which bytes are published: only behind an answer that shows the bucket to be there
are they stored in it (`PublishesBy.shown`).  Whatever is answered, the programs follow these
rules (`ObjectStore.runs_ensureBucket`, `runs_publish_overClients`).
-/

namespace NodePools.Aws

open Attempt
open Prog (Runs Uncut)

variable {τ : Type}

/-! ## Calls to the store -/

/-- What is asked of the store. -/
inductive StoreRequest where
  | head (bucket : String)
  | create (bucket : String)
  | put (bucket key : String) (content : Bytes)
  | other
deriving DecidableEq

/-- A call to the store with its answer. -/
structure StoreEvent where
  request : StoreRequest
  answer : Except Error Datum

/-- What a method with arguments asks of the store. -/
def requestOf (method : String) (arguments : Fields Datum) : StoreRequest :=
  match Fields.get? "Bucket" arguments with
  | some (.text bucket) =>
    if method = "head_bucket" then .head bucket
    else if method = "create_bucket" then .create bucket
    else if method = "put_object" then
      match Fields.get? "Key" arguments, Fields.get? "Body" arguments with
      | some (.text key), some (.bytes content) => .put bucket key content
      | _, _ => .other
    else .other
  | _ => .other

/-- What an exchange tells of the store. -/
def storeEvent? : Exchange (Client τ) → Option StoreEvent
  | ⟨.call service method arguments, answer⟩ =>
    if service = ObjectStore.service then some ⟨requestOf method arguments, answer⟩ else none
  | _ => none

/-- What a trace of the clients tells of the store. -/
def storeEvents (tr : List (Exchange (Client τ))) : List StoreEvent := tr.filterMap storeEvent?

theorem storeEvents_append (tr₁ tr₂ : List (Exchange (Client τ))) :
    storeEvents (tr₁ ++ tr₂) = storeEvents tr₁ ++ storeEvents tr₂ :=
  List.filterMap_append ..

/-- An answer is an error with one of the codes. -/
def Tells (codes : List String) (answer : Except Error Datum) : Prop :=
  ∃ e, answer = .error (.client e) ∧ e.codeIsIn codes = .ok true

theorem tells_of_code {e : ClientError} {code : String} {codes : List String}
    (of_code : e.code = some (.text code)) (mem : code ∈ codes) : Tells codes (.error (.client e)) := by
  refine ⟨e, rfl, ?_⟩
  rw [Stacks.codeIsIn_of_code (congrArg (Option.getD · (.text "")) of_code),
    List.contains_iff_mem.mpr mem]

/-- An answer is no error, or an error with one of the codes. -/
def Accepted (codes : List String) (answer : Except Error Datum) : Prop :=
  (∃ d, answer = .ok d) ∨ Tells codes answer

theorem tells_of_accepted {codes : List String} {e : Error}
    (accepted : Accepted codes (.error e)) : Tells codes (.error e) :=
  accepted.resolve_left nofun

theorem not_tells_of_other {codes : List String} {e : Error} (other : ∀ answer, e ≠ .client answer) :
    ¬Tells codes (.error e) := by
  rintro ⟨answer, same, -⟩
  exact other answer (Except.error.inj same)

namespace ObjectStore

/-! ## Buckets -/

/-- How a bucket is made unless it is there, and what comes of it. -/
inductive Ensures (bucket : String) : List StoreEvent → Except Error Unit → Prop
  | there (d : Datum) : Ensures bucket [⟨.head bucket, .ok d⟩] (.ok ())
  | inaccessible {look : Except Error Datum} (e : Error) : ¬Accepted missingCodes look →
    Ensures bucket [⟨.head bucket, look⟩] (.error e)
  | made {look answer : Except Error Datum} : Tells missingCodes look →
    Accepted ownedCodes answer →
    Ensures bucket [⟨.head bucket, look⟩, ⟨.create bucket, answer⟩] (.ok ())
  | notMade {look answer : Except Error Datum} (e : Error) : Tells missingCodes look →
    ¬Accepted ownedCodes answer →
    Ensures bucket [⟨.head bucket, look⟩, ⟨.create bucket, answer⟩] (.error e)

theorem requestOf_creation (region : Datum) (bucket : String) :
    requestOf "create_bucket" (creation region bucket) = .create bucket := by
  unfold creation
  split <;> rfl

section

variable {region : Datum} {bucket : String} {tr : List (Exchange (Client τ))}
  {r : Except Error Unit}

/-- A call to the store, and what goes on with its answer. -/
theorem runs_attempt_bind {method : String} {arguments : Fields Datum}
    {k : Except Error Datum → Action (Client τ) Unit}
    (run : Runs (Client.attempt service method arguments >>= k).outcome tr r) :
    ∃ answer rest, storeEvents tr = ⟨requestOf method arguments, answer⟩ :: storeEvents rest ∧
      Runs (k answer).outcome rest r := by
  have asked : Runs (Client.ask (.call service method arguments) >>= k).outcome tr r := run
  obtain ⟨answer, rest, rfl, later⟩ := Client.runs_ask_bind asked
  exact ⟨answer, rest, rfl, later⟩

/-- An error whose code decides how to go on is one with the codes, or it is not and nothing
more is asked. -/
theorem runs_code_bind {codes : List String} {e : ClientError}
    {k : Bool → Action (Client τ) Unit} {refused : Error} (other : k false = throw refused)
    (run : Runs ((liftM (e.codeIsIn codes) : Action (Client τ) Bool) >>= k).outcome tr r) :
    (Tells codes (.error (.client e)) ∧ Runs (k true).outcome tr r) ∨
      (¬Tells codes (.error (.client e)) ∧ tr = [] ∧ ∃ e', r = .error e') := by
  have tells_iff : Tells codes (.error (.client e)) ↔ e.codeIsIn codes = .ok true := by
    constructor
    · rintro ⟨e', same, told⟩
      cases same
      exact told
    · exact fun told => ⟨e, rfl, told⟩
  rw [tells_iff]
  rcases runs_fault_bind run with ⟨f, told, rfl, rfl⟩ | ⟨found, told, later⟩
  · rw [told]
    exact .inr ⟨nofun, rfl, _, rfl⟩
  · rw [told]
    cases found with
    | true => exact .inl ⟨rfl, later⟩
    | false =>
      rw [other] at later
      obtain ⟨rfl, rfl⟩ := Action.runs_throw.mp later
      exact .inr ⟨nofun, rfl, _, rfl⟩

/-- A bucket is made by one call, and that it is owned already is no failure. -/
theorem runs_create
    (run : Runs (create region bucket : Action (Client τ) Unit).outcome tr r) :
    ∃ answer, storeEvents tr = [⟨.create bucket, answer⟩] ∧
      (Accepted ownedCodes answer ∧ r = .ok () ∨
        ¬Accepted ownedCodes answer ∧ ∃ e, r = .error e) := by
  obtain ⟨answer, rest, events, later⟩ := runs_attempt_bind run
  rw [requestOf_creation] at events
  refine ⟨answer, ?_⟩
  rcases answer with e | d
  · cases e with
    | client e =>
      rcases runs_code_bind rfl later with ⟨owned, done⟩ | ⟨other, rfl, failed⟩
      · obtain ⟨rfl, rfl⟩ := Action.runs_pure.mp done
        exact ⟨events, .inl ⟨.inr owned, rfl⟩⟩
      · exact ⟨events, .inr ⟨mt tells_of_accepted other, failed⟩⟩
    | _ =>
      obtain ⟨rfl, rfl⟩ := Action.runs_throw.mp later
      exact ⟨events, .inr ⟨mt tells_of_accepted (not_tells_of_other nofun), _, rfl⟩⟩
  · obtain ⟨⟨⟩, rfl, rfl⟩ := Client.runs_ask.mp later
    exact ⟨events, .inl ⟨.inl ⟨d, rfl⟩, rfl⟩⟩

/-- A bucket is made unless it is there, by the rule. -/
theorem runs_ensureBucket
    (run : Runs (ensureBucket region bucket : Action (Client τ) Unit).outcome tr r) :
    Ensures bucket (storeEvents tr) r := by
  obtain ⟨⟨⟩, rest, rfl, looked⟩ := Client.runs_ask_bind run
  obtain ⟨look, rest, events, later⟩ := runs_attempt_bind looked
  rw [storeEvents_append, events]
  show Ensures bucket (⟨.head bucket, look⟩ :: storeEvents rest) r
  rcases look with e | d
  · cases e with
    | client e =>
      rcases runs_code_bind rfl later with ⟨missing, making⟩ | ⟨other, rfl, e', rfl⟩
      · obtain ⟨answer, made, ⟨accepted, rfl⟩ | ⟨refused, e', rfl⟩⟩ := runs_create making
        · rw [made]
          exact .made missing accepted
        · rw [made]
          exact .notMade e' missing refused
      · exact .inaccessible e' (mt tells_of_accepted other)
    | _ =>
      obtain ⟨rfl, rfl⟩ := Action.runs_throw.mp later
      exact .inaccessible _ (mt tells_of_accepted (not_tells_of_other nofun))
  · obtain ⟨rfl, rfl⟩ := Action.runs_pure.mp later
    exact .there d

/-! ## Objects -/

/-- Bytes are stored by one call, and fail to be unless it is accepted. -/
theorem runs_put {key : String} {content : Bytes}
    (run : Runs (put region bucket key content : Action (Client τ) Unit).outcome tr r) :
    ∃ answer, storeEvents tr = [⟨.put bucket key content, answer⟩] ∧
      (r = .ok () ↔ ∃ d, answer = .ok d) := by
  obtain ⟨⟨⟩, rest, rfl, asked⟩ := Client.runs_ask_bind run
  obtain ⟨answer, rest, events, later⟩ := runs_attempt_bind asked
  rw [storeEvents_append, events]
  refine ⟨answer, ?_⟩
  rcases answer with e | d
  · cases e with
    | _ =>
      obtain ⟨rfl, rfl⟩ := Action.runs_throw.mp later
      exact ⟨rfl, nofun, fun ⟨_, same⟩ => nomatch same⟩
  · obtain ⟨rfl, rfl⟩ := Action.runs_pure.mp later
    exact ⟨rfl, fun _ => ⟨d, rfl⟩, fun _ => rfl⟩

end

/-! ## Both come to an end -/

theorem uncut_code_bind {codes : List String} {e : ClientError} {k : Bool → Action (Client τ) Unit}
    (uncut : ∀ found, Uncut (k found).outcome) :
    Uncut ((liftM (e.codeIsIn codes) : Action (Client τ) Bool) >>= k).outcome :=
  Action.uncut_bind (.done _) uncut

theorem uncut_create (region : Datum) (bucket : String) :
    Uncut (create region bucket : Action (Client τ) Unit).outcome := by
  refine Action.uncut_bind (Client.uncut_ask _) fun answer => ?_
  split
  · exact Client.uncut_ask _
  · exact uncut_code_bind fun owned => by split <;> exact .done _
  · exact .done _

theorem uncut_ensureBucket (region : Datum) (bucket : String) :
    Uncut (ensureBucket region bucket : Action (Client τ) Unit).outcome := by
  refine Action.uncut_bind (Client.uncut_ask _) fun _ =>
    Action.uncut_bind (Client.uncut_ask _) fun look => ?_
  split
  · exact .done _
  · refine uncut_code_bind fun missing => ?_
    split
    · exact uncut_create region bucket
    · exact .done _
  · exact .done _

theorem uncut_put (region : Datum) (bucket key : String) (content : Bytes) :
    Uncut (put region bucket key content : Action (Client τ) Unit).outcome := by
  refine Action.uncut_bind (Client.uncut_ask _) fun _ =>
    Action.uncut_bind (Client.uncut_ask _) fun answer => ?_
  split <;> exact .done _

end ObjectStore

/-! ## What the calls for a bucket show -/

/-- An answer shows a bucket to be there: that it was found, or made, or is owned already. -/
def StoreEvent.Shows (bucket : String) (e : StoreEvent) : Prop :=
  (e.request = .head bucket ∧ ∃ d, e.answer = .ok d) ∨
    (e.request = .create bucket ∧ Accepted ObjectStore.ownedCodes e.answer)

/-- An answer is one with which publishing goes on. -/
def StoreEvent.GoesOn (e : StoreEvent) : Prop :=
  match e.request with
  | .head _ => Accepted ObjectStore.missingCodes e.answer
  | .create _ => Accepted ObjectStore.ownedCodes e.answer
  | .put .. => ∃ d, e.answer = .ok d
  | .other => True

namespace ObjectStore

variable {bucket : String} {events : List StoreEvent} {r : Except Error Unit}

theorem Ensures.requests (ensures : Ensures bucket events r) :
    ∀ e ∈ events, e.request = .head bucket ∨ e.request = .create bucket := by
  intro e mem
  cases ensures with
  | there | inaccessible => exact .inl (List.mem_singleton.mp mem ▸ rfl)
  | made | notMade =>
    rcases List.mem_cons.mp mem with rfl | mem
    · exact .inl rfl
    · exact .inr (List.mem_singleton.mp mem ▸ rfl)

theorem Ensures.shown (ensures : Ensures bucket events (.ok ())) : ∃ e ∈ events, e.Shows bucket := by
  cases ensures with
  | there d => exact ⟨_, List.mem_cons_self, .inl ⟨rfl, d, rfl⟩⟩
  | made missing accepted =>
    exact ⟨_, List.mem_cons_of_mem _ List.mem_cons_self, .inr ⟨rfl, accepted⟩⟩

/-- If it goes on with every answer, the bucket is there. -/
theorem Ensures.ok (ensures : Ensures bucket events r) (on : ∀ e ∈ events, e.GoesOn) :
    r = .ok () := by
  cases ensures with
  | there | made => rfl
  | inaccessible e refused => exact absurd (on _ List.mem_cons_self) refused
  | notMade e missing refused =>
    exact absurd (on _ (List.mem_cons_of_mem _ List.mem_cons_self)) refused

end ObjectStore

/-! ## Publishing over the clients -/

/-- How bytes are published by calls to the store, and what comes of it. -/
inductive PublishesBy (bucket : String) (content : Bytes) :
    List StoreEvent → Except Error String → Prop
  | refused {events : List StoreEvent} {e : Error} (e' : Error) :
    ObjectStore.Ensures bucket events (.error e) → PublishesBy bucket content events (.error e')
  | notStored {events : List StoreEvent} {answer : Except Error Datum} (e : Error) :
    ObjectStore.Ensures bucket events (.ok ()) → (∀ d, answer ≠ .ok d) →
    PublishesBy bucket content
      (events ++ [⟨.put bucket (contentKey content) content, answer⟩]) (.error e)
  | stored {events : List StoreEvent} (d : Datum) : ObjectStore.Ensures bucket events (.ok ()) →
    PublishesBy bucket content (events ++ [⟨.put bucket (contentKey content) content, .ok d⟩])
      (.ok (Publisher.uri ObjectStore.scheme bucket (contentKey content)))

/-- What a request shows of the store.  Of those that publish nothing, nothing is said. -/
def StoreShows : Exchange Service → List StoreEvent → Prop
  | ⟨.inl (.ensureBucket bucket), r⟩, events => ObjectStore.Ensures bucket events r
  | ⟨.inl (.put bucket key content), r⟩, events =>
    ∃ answer, events = [⟨.put bucket key content, answer⟩] ∧ (r = .ok () ↔ ∃ d, answer = .ok d)
  | ⟨.inl (.apply ..), _⟩, _ | ⟨.inl (.wait ..), _⟩, _ | ⟨.inl (.list _), _⟩, _
  | ⟨.inl (.delete _), _⟩, _ => True
  | ⟨.inr _, _⟩, events => events = []

variable [Seconds τ]

theorem storeShows_of_meaning (b : Backend) {op : CloudOp} {answer : op.Answer}
    {tr : List (Exchange (Client τ))} (run : Runs (b.meaning op) tr answer) :
    StoreShows (.cloud op answer) (storeEvents tr) := by
  cases op with
  | ensureBucket bucket => exact ObjectStore.runs_ensureBucket run
  | put bucket key content => exact ObjectStore.runs_put run
  | apply | wait | list | delete => trivial

/-- Over the clients bytes are published by the rule. -/
theorem runs_publish_overClients (b : Backend) {bucket : String} {content : Bytes}
    {tr : List (Exchange ((Client τ).sum Site))} {r : Except Error String}
    (run : Runs (b.overClients (Publisher.publish ObjectStore.scheme bucket content).outcome) tr r) :
    PublishesBy bucket content (storeEvents (ofFirst tr)) r := by
  obtain ⟨es, ran, parts, -⟩ := Prog.runs_interpret_either (f := storeEvent?) (R := StoreShows)
    (fun _ _ _ asked => storeShows_of_meaning b asked) (fun _ _ => rfl) run
  have publishes := Publisher.runs_publish ran
  have told : InParts StoreShows (calls es) (storeEvents (ofFirst tr)) :=
    parts.filter fun e part shows silent => by
      obtain ⟨op | op, answer⟩ := e
      · cases silent
      · exact shows
  generalize calls es = cs at publishes told
  generalize storeEvents (ofFirst tr) = events at told
  cases publishes with
  | bucketRefused e => exact .refused _ told.singleton
  | notStored e =>
    cases told with
    | cons made put =>
      obtain ⟨answer, rfl, stored_iff⟩ := put.singleton
      exact .notStored _ made fun d same => nomatch stored_iff.mpr ⟨d, same⟩
  | stored =>
    cases told with
    | cons made put =>
      obtain ⟨answer, rfl, stored_iff⟩ := put.singleton
      obtain ⟨d, rfl⟩ := stored_iff.mp rfl
      exact .stored d made

/-- To publish over the clients is never cut off. -/
theorem uncut_publish_overClients (b : Backend) (scheme bucket : String) (content : Bytes) :
    (b.overClients (Publisher.publish scheme bucket content).outcome :
      Prog ((Client τ).sum Site) _).Uncut := by
  refine Action.uncut_interpret_bind (Action.uncut_interpret_mapError ?_) fun _ =>
    Action.uncut_interpret_bind (.ask fun _ => .done _) fun _ => .done _
  refine Action.uncut_interpret_bind ?_ fun _ => ?_
  · exact (ObjectStore.uncut_ensureBucket b.region bucket).inFirst.bind fun _ => .done _
  · exact (ObjectStore.uncut_put b.region bucket (contentKey content) content).inFirst.bind
      fun _ => .done _

section

variable {bucket : String} {content : Bytes} {events : List StoreEvent}
  {r : Except Error String}

namespace PublishesBy

/-- Publishing asks for nothing but its bucket and its object. -/
theorem requests (publishes : PublishesBy bucket content events r) :
    ∀ e ∈ events, e.request = .head bucket ∨ e.request = .create bucket ∨
      e.request = .put bucket (contentKey content) content := by
  have about {events : List StoreEvent} {r : Except Error Unit}
      (ensures : ObjectStore.Ensures bucket events r) : ∀ e ∈ events, e.request = .head bucket ∨
        e.request = .create bucket ∨ e.request = .put bucket (contentKey content) content :=
    fun e mem => (ensures.requests e mem).imp_right .inl
  cases publishes with
  | refused e' ensures => exact about ensures
  | notStored e ensures | stored d ensures =>
    refine List.forall_mem_append.mpr ⟨about ensures, ?_⟩
    exact List.forall_mem_singleton.mpr (.inr (.inr rfl))

/-- Bytes are stored only behind an answer that shows their bucket to be there. -/
theorem shown (publishes : PublishesBy bucket content events r) {front back : List StoreEvent}
    {e : StoreEvent} {bucket' key : String} {content' : Bytes}
    (split : events = front ++ e :: back) (put : e.request = .put bucket' key content') :
    ∃ e' ∈ front, e'.Shows bucket' := by
  have not_put {events : List StoreEvent} {r : Except Error Unit}
      (ensures : ObjectStore.Ensures bucket events r) : e ∉ events := by
    intro mem
    rcases ensures.requests e mem with other | other <;> cases other.symm.trans put
  have last {events : List StoreEvent} {answer : Except Error Datum}
      (ensures : ObjectStore.Ensures bucket events (.ok ()))
      (split : events ++ [⟨.put bucket (contentKey content) content, answer⟩] =
        front ++ e :: back) : ∃ e' ∈ front, e'.Shows bucket' := by
    rcases split_append split with ⟨back', rfl⟩ | ⟨front', rfl, rest⟩
    · exact absurd (List.mem_append_right _ List.mem_cons_self) (not_put ensures)
    · cases front' with
      | nil =>
        obtain rfl := (List.cons.inj rest).1
        cases put
        obtain ⟨e', mem, shows⟩ := ensures.shown
        exact ⟨e', List.mem_append_left _ mem, shows⟩
      | cons _ front' => exact absurd (List.cons.inj rest).2.symm (by simp)
  cases publishes with
  | refused e' ensures =>
    exact absurd (split ▸ List.mem_append_right _ List.mem_cons_self) (not_put ensures)
  | notStored e ensures | stored d ensures => exact last ensures split

/-- If it goes on with every answer, the bytes are stored and the address is given. -/
theorem ok (publishes : PublishesBy bucket content events r) (on : ∀ e ∈ events, e.GoesOn) :
    r = .ok (Publisher.uri ObjectStore.scheme bucket (contentKey content)) ∧
      ∃ d, ⟨.put bucket (contentKey content) content, .ok d⟩ ∈ events := by
  cases publishes with
  | refused e' ensures => cases ensures.ok on
  | notStored e _ failed =>
    obtain ⟨d, same⟩ : ∃ d, _ = Except.ok d :=
      on _ (List.mem_append_right _ (List.mem_singleton_self _))
    exact absurd same (failed d)
  | stored d _ => exact ⟨rfl, d, List.mem_append_right _ (List.mem_singleton_self _)⟩

end PublishesBy

end

end NodePools.Aws
