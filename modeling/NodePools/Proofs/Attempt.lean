import Mathlib.Data.List.Basic
import NodePools.Proofs.Trace
import NodePools.Provisioner

/-!
# The attempt of one pool

Giving a pool its stack goes through seven steps: the price that the pool bids,
its user data, the conversion and the publication of these, the stack document,
the application of the document, and the wait for the stack.  `Takes` is the rule
of each step: what it asks, and how it ends for every answer.  `Goes` follows the
steps up to the first one that fails.

The main statement is `provisionPool_goes`: whatever it is answered,
`Provisioner.provisionPool` goes through the steps in this way, and what it
returns is the status that the last step gave or the error of the step that
failed.  Log records are left out; they are no calls to a collaborator.
-/

namespace NodePools

/-- A request to a cloud service, with its answer. -/
def Exchange.cloud (op : CloudOp) (answer : op.Answer) : Exchange Service := ⟨.inl op, answer⟩

/-- A request at the site, with its answer. -/
def Exchange.site (op : SiteOp) (answer : op.Answer) : Exchange Service := ⟨.inr op, answer⟩

/-- Whether an exchange is a call to a collaborator, and not a log record. -/
def Exchange.isCall : Exchange Service → Bool
  | ⟨.inr (.log _), _⟩ => false
  | _ => true

/-- The calls of a trace. -/
def calls (tr : List (Exchange Service)) : List (Exchange Service) := tr.filter Exchange.isCall

@[simp] theorem calls_nil : calls [] = [] := rfl

@[simp] theorem calls_append (tr₁ tr₂ : List (Exchange Service)) :
    calls (tr₁ ++ tr₂) = calls tr₁ ++ calls tr₂ :=
  List.filter_append ..

/-- What log records do not tell is told by the calls. -/
theorem filterMap_calls {α : Type} {f : Exchange Service → Option α}
    (silent : ∀ record answer, f (.site (.log record) answer) = none)
    (tr : List (Exchange Service)) : (calls tr).filterMap f = tr.filterMap f := by
  rw [calls, List.filterMap_filter]
  refine List.filterMap_congr fun e _ => ?_
  by_cases call : e.isCall
  · rw [if_pos call]
  · rw [if_neg call]
    obtain ⟨op | op, answer⟩ := e
    · exact absurd rfl call
    · cases op with
      | log record => exact (silent record answer).symm
      | _ => exact absurd rfl call

namespace Service

open Prog

/-- A log record is no call. -/
theorem runs_log {level : Level} {cluster : Option String} {message : String}
    {tr : List (Exchange Service)} {r : Except Error Unit}
    (h : Runs (log level cluster message).outcome tr r) : calls tr = [] ∧ r = .ok () := by
  change Runs ((request _).bind _) tr r at h
  obtain ⟨tr₁, a, tr₂, rfl, asked, made⟩ := Prog.runs_bind.mp h
  obtain rfl := runs_request.mp asked
  obtain ⟨rfl, rfl⟩ := runs_done.mp made
  exact ⟨rfl, rfl⟩

/-- What follows a log record makes the calls and gives the result. -/
theorem runs_log_bind {α : Type} {level : Level} {cluster : Option String} {message : String}
    {k : Unit → Action Service α} {tr : List (Exchange Service)} {r : Except Error α}
    (h : Runs (log level cluster message >>= k).outcome tr r) :
    ∃ rest, calls tr = calls rest ∧ Runs (k ()).outcome rest r := by
  rcases Action.runs_bind.mp h with ⟨e, rfl, logged⟩ | ⟨tr₁, ⟨⟩, tr₂, rfl, logged, later⟩
  · cases (runs_log logged).2
  · refine ⟨tr₂, ?_, later⟩
    rw [calls_append, (runs_log logged).1, List.nil_append]

theorem uncut_log (level : Level) (cluster : Option String) (message : String) :
    Uncut (log level cluster message).outcome :=
  (Uncut.request (S := Service) (.inr (.log ⟨level, cluster, message⟩))).bind fun _ => .done _

end Service

namespace Publisher

/-- How bytes are published: the calls with their answers, and what comes of them.  Nothing
is put into a bucket that was refused. -/
inductive Publishes (scheme bucket : String) (content : Bytes) :
    List (Exchange Service) → Except Error String → Prop
  | bucketRefused (e : Error) :
    Publishes scheme bucket content [.cloud (.ensureBucket bucket) (.error e)]
      (.error (storeError (contentKey content) bucket e))
  | notStored (e : Error) :
    Publishes scheme bucket content
      [.cloud (.ensureBucket bucket) (.ok ()),
        .cloud (.put bucket (contentKey content) content) (.error e)]
      (.error (storeError (contentKey content) bucket e))
  | stored :
    Publishes scheme bucket content
      [.cloud (.ensureBucket bucket) (.ok ()),
        .cloud (.put bucket (contentKey content) content) (.ok ())]
      (.ok (uri scheme bucket (contentKey content)))

/-- Bytes are published by the rule. -/
theorem runs_publish {scheme bucket : String} {content : Bytes} {tr : List (Exchange Service)}
    {r : Except Error String} (run : Prog.Runs (publish scheme bucket content).outcome tr r) :
    Publishes scheme bucket content (calls tr) r := by
  have stores {tr : List (Exchange Service)} {r : Except Error Unit}
      (run : Prog.Runs (Action.mapError (storeError (contentKey content) bucket) do
        Service.ensureBucket bucket
        Service.put bucket (contentKey content) content).outcome tr r) :
      Publishes scheme bucket content (calls tr)
        (r.map fun _ => uri scheme bucket (contentKey content)) := by
    obtain ⟨r', stored, told⟩ := Action.runs_mapError.mp run
    rcases Action.runs_bind.mp stored with ⟨e, rfl, made⟩ | ⟨tr₁, ⟨⟩, tr₂, rfl, made, put⟩
    · obtain rfl := Prog.runs_request.mp made
      cases told
      exact .bucketRefused e
    · obtain rfl := Prog.runs_request.mp made
      obtain rfl := Prog.runs_request.mp put
      subst told
      rcases r' with e | ⟨⟩
      · exact .notStored e
      · exact .stored
  rcases Action.runs_bind.mp run with ⟨e, rfl, failed⟩ | ⟨tr₁, ⟨⟩, tr₂, rfl, stored, said⟩
  · exact stores failed
  · obtain ⟨rest, same, gave⟩ := Service.runs_log_bind said
    obtain ⟨rfl, rfl⟩ := Action.runs_pure.mp gave
    rw [calls_append, same, calls_nil, List.append_nil]
    exact stores stored

end Publisher

namespace Attempt

/-- The steps of an attempt. -/
inductive Step where
  | price
  | userData
  | convert
  | publish
  | document
  | apply
  | wait
deriving Repr, DecidableEq

/-- The steps in the order in which a pool goes through them. -/
def Step.all : List Step := [.price, .userData, .convert, .publish, .document, .apply, .wait]

/-- What the steps of an attempt have given so far. -/
structure Progress where
  price : Datum
  rendered : String
  payload : Bytes
  document : String
  status : String

/-- Nothing has been given yet. -/
def Progress.start : Progress := ⟨.null, "", [], "", ""⟩

section

variable (p : Provisioner) (values : Values) (pool : NodePool)

/-- The values that the templates of a pool see: the given ones, with the price that
the pool bids in the place of any other price. -/
def seen (price : Datum) : Values := values.set Provisioner.spotPriceKey price

/-- The text of a template of the pool's profile. -/
def templateText (file : String) (context : Fields Template.Value) : Except Error String := do
  let folder ← p.profiles.profileFolder pool
  renderTemplate p.profiles.files (folder.child file) context

/-- The path of the user data of the pool's profile. -/
def userDataPath : Path :=
  (p.profiles.folder.child pool.profile).child Profiles.userDataFile

/-- The address of a payload in the object store. -/
def address (payload : Bytes) : String :=
  Publisher.uri p.profiles.scheme p.profiles.bucket (contentKey payload)

/-- How one step goes from what the steps before have given: the calls it makes with
their answers, and what has been given afterwards or the error with which it fails. -/
inductive Takes : Step → Progress → List (Exchange Service) → Except Error Progress → Prop
  | unpriced (g : Progress) : pool.discountStrategy.name = "none" →
    Takes .price g [] (.ok { g with price := .text "" })
  | priced (g : Progress) (answer : Except Error (Option InstanceInfo)) :
    pool.discountStrategy.name = "spot_max_price" →
    Takes .price g [.site (.instanceInfo pool.instanceType) answer] do
      let info ← answer
      let price ← (onDemandPrice info pool.instanceType p.cluster.region).mapError .config
      return { g with price }
  | unknownStrategy (g : Progress) :
    pool.discountStrategy.name ≠ "none" → pool.discountStrategy.name ≠ "spot_max_price" →
    Takes .price g [] (.error (.config (.unpricedStrategy pool.discountStrategy.name)))
  | userData (g : Progress) :
    Takes .userData g [] do
      let rendered ← templateText p pool Profiles.userDataFile
        (Profiles.userDataContext p.cluster pool (seen values g.price))
      return { g with rendered }
  | convert (g : Progress) (answer : Except Error Bytes) :
    Takes .convert g [.site (.convert g.rendered) answer] do
      let payload ← answer.mapError fun e =>
        .template (userDataPath p pool).text (.unconverted e.message)
      return { g with payload }
  | bucketRefused (g : Progress) (e : Error) :
    Takes .publish g [.cloud (.ensureBucket p.profiles.bucket) (.error e)]
      (.error (Publisher.storeError (contentKey g.payload) p.profiles.bucket e))
  | publish (g : Progress) (answer : Except Error Unit) :
    Takes .publish g
      [.cloud (.ensureBucket p.profiles.bucket) (.ok ()),
        .cloud (.put p.profiles.bucket (contentKey g.payload) g.payload) answer] do
      answer.mapError (Publisher.storeError (contentKey g.payload) p.profiles.bucket)
      return g
  | document (g : Progress) :
    Takes .document g [] do
      let document ← templateText p pool Profiles.stackFile
        (Profiles.stackContext p.cluster pool (seen values g.price)
          (Bootstrap.encodeUserData (address p g.payload) p.profiles.version))
      return { g with document }
  | apply (g : Progress) (answer : Except Error Unit) :
    Takes .apply g
      [.cloud (.apply (stackName p.cluster pool) g.document (Tags.encode p.cluster.id pool))
        answer] do
      answer
      return g
  | wait (g : Progress) (answer : Except Error String) :
    Takes .wait g
      [.cloud (.wait (stackName p.cluster pool) p.waitTimeout p.waitInterval) answer] do
      let status ← answer
      return { g with status }

/-- How a pool goes through steps: the steps that it passes, the calls it makes, what
has been given in the end, and the error of the step that failed, if one did. -/
inductive Goes : List Step → Progress → List Step → List (Exchange Service) → Progress →
    Option Error → Prop
  | arrived (g : Progress) : Goes [] g [] [] g none
  | stopped {step : Step} {steps : List Step} {g : Progress} {cs : List (Exchange Service)}
    {e : Error} :
    Takes p values pool step g cs (.error e) → Goes (step :: steps) g [] cs g (some e)
  | passed {step : Step} {steps passed : List Step} {g g' last : Progress}
    {cs later : List (Exchange Service)} {failure : Option Error} :
    Takes p values pool step g cs (.ok g') → Goes steps g' passed later last failure →
    Goes (step :: steps) g (step :: passed) (cs ++ later) last failure

end

/-- What comes of an attempt: the status of the stack, or the error of the step that
failed. -/
def conclusion (last : Progress) : Option Error → Except Error String
  | none => .ok last.status
  | some e => .error e

/-! ## Actions that go through steps -/

section

open Prog

variable (p : Provisioner) (values : Values) (pool : NodePool)

/-- Whatever it is answered, an action goes through the steps from what has been given
so far, and its result is what comes of them. -/
def Realizes (steps : List Step) (g : Progress) (x : Action Service String) : Prop :=
  ∀ tr r, Runs x.outcome tr r → ∃ passed last failure,
    Goes p values pool steps g passed (calls tr) last failure ∧ r = conclusion last failure

variable {p values pool} {α : Type} {here : Step} {steps : List Step} {g : Progress}

/-- An action that begins with what one step does. -/
theorem Realizes.step {x : Action Service α} {k : α → Action Service String}
    (given : α → Progress)
    (takes : ∀ tr r, Runs x.outcome tr r →
      Takes p values pool here g (calls tr) do return given (← r))
    (rest : ∀ tr a, Runs x.outcome tr (.ok a) → Realizes p values pool steps (given a) (k a)) :
    Realizes p values pool (here :: steps) g (x >>= k) := by
  intro tr r run
  rcases Action.runs_bind.mp run with ⟨e, rfl, first⟩ | ⟨tr₁, a, tr₂, rfl, first, second⟩
  · exact ⟨[], g, some e, .stopped (takes tr _ first), rfl⟩
  · obtain ⟨passed, last, failure, goes, result⟩ := rest tr₁ a first tr₂ r second
    rw [calls_append]
    exact ⟨_, last, failure, .passed (takes tr₁ _ first) goes, result⟩

/-- A computation in front of a step belongs to the step: if it fails, the step does. -/
theorem Realizes.lift {x : Except Error α} {k : α → Action Service String}
    (fails : ∀ e, x = .error e → Takes p values pool here g [] (.error e))
    (rest : ∀ a, x = .ok a → Realizes p values pool (here :: steps) g (k a)) :
    Realizes p values pool (here :: steps) g (liftM x >>= k) := by
  intro tr r run
  rcases Action.runs_bind.mp run with ⟨e, rfl, first⟩ | ⟨tr₁, a, tr₂, rfl, first, second⟩
  · obtain ⟨rfl, failed⟩ := Action.runs_liftM.mp first
    exact ⟨[], g, some e, .stopped (fails e failed.symm), rfl⟩
  · obtain ⟨rfl, made⟩ := Action.runs_liftM.mp first
    exact rest a made.symm tr₂ r second

/-- A log record on the way is no part of a step. -/
theorem Realizes.log {level : Level} {cluster : Option String} {message : String}
    {k : Unit → Action Service String} (rest : Realizes p values pool steps g (k ())) :
    Realizes p values pool steps g (Service.log level cluster message >>= k) := by
  intro tr r run
  obtain ⟨tr', same, later⟩ := Service.runs_log_bind run
  rw [same]
  exact rest tr' r later

theorem Realizes.arrived : Realizes p values pool [] g (pure g.status) := by
  intro tr r run
  obtain ⟨rfl, rfl⟩ := Action.runs_pure.mp run
  exact ⟨[], g, none, .arrived g, rfl⟩

end

/-! ## What each step of the code does -/

section

open Prog

variable {p : Provisioner} {values : Values} {pool : NodePool} (g : Progress)
  {tr : List (Exchange Service)}

theorem runs_spotPrice {r : Except Error Datum}
    (run : Runs (spotPrice pool p.cluster.region).outcome tr r) :
    Takes p values pool .price g (calls tr) do return { g with price := ← r } := by
  unfold spotPrice DiscountStrategy.ofName at run
  by_cases none : pool.discountStrategy.name = "none"
  · simp only [none, if_true] at run
    obtain ⟨rfl, rfl⟩ := Action.runs_pure.mp run
    exact .unpriced g none
  · by_cases bids : pool.discountStrategy.name = "spot_max_price"
    · simp only [bids, if_neg (show ¬"spot_max_price" = "none" by decide), if_true] at run
      rcases Action.runs_bind.mp run with ⟨e, rfl, asked⟩ | ⟨tr₁, info, tr₂, rfl, asked, priced⟩
      · obtain rfl := runs_request.mp asked
        exact .priced g (.error e) bids
      · obtain rfl := runs_request.mp asked
        obtain ⟨rfl, rfl⟩ := Action.runs_ofExcept.mp priced
        exact .priced g (.ok info) bids
    · simp only [if_neg none, if_neg bids] at run
      obtain ⟨rfl, rfl⟩ := Action.runs_throw.mp run
      exact .unknownStrategy g none bids

/-- The folder of a profile is where the name of the profile leads. -/
theorem profileFolder_eq_ok {t : Profiles} {path : Path} (h : t.profileFolder pool = .ok path) :
    path = t.folder.child pool.profile := by
  unfold Profiles.profileFolder at h
  dsimp only at h
  split at h
  · cases h
  · split at h <;> cases h
    rfl

theorem runs_convert {r : Except Error Bytes}
    (run : Runs (Action.mapError
      (fun e => .template (userDataPath p pool).text (.unconverted e.message))
      (Service.convert g.rendered)).outcome tr r) :
    Takes p values pool .convert g (calls tr) do return { g with payload := ← r } := by
  obtain ⟨answer, asked, rfl⟩ := Action.runs_mapError.mp run
  obtain rfl := runs_request.mp asked
  exact .convert g answer

theorem runs_publish {r : Except Error String}
    (run : Runs (Publisher.publish p.profiles.scheme p.profiles.bucket g.payload).outcome tr r) :
    Takes p values pool .publish g (calls tr) do
      let _ ← r
      return g := by
  have publishes := Publisher.runs_publish run
  generalize calls tr = cs at publishes
  cases publishes with
  | bucketRefused e => exact .bucketRefused g e
  | notStored e => exact .publish g (.error e)
  | stored => exact .publish g (.ok ())

/-- What is published has the address of its payload. -/
theorem publish_address {payload : Bytes} {uri : String}
    (run : Runs (Publisher.publish p.profiles.scheme p.profiles.bucket payload).outcome tr
      (.ok uri)) : uri = address p payload := by
  have publishes := Publisher.runs_publish run
  generalize calls tr = cs at publishes
  cases publishes with
  | stored => rfl

theorem runs_apply {document : String} {r : Except Error Unit}
    (run : Runs (Service.apply (stackName p.cluster pool) document
      (Tags.encode p.cluster.id pool)).outcome tr r) (given : g.document = document) :
    Takes p values pool .apply g (calls tr) do
      let _ ← r
      return g := by
  obtain rfl := runs_request.mp run
  subst given
  exact .apply g r

theorem runs_wait {r : Except Error String}
    (run : Runs (Service.wait (stackName p.cluster pool) p.waitTimeout p.waitInterval).outcome tr
      r) :
    Takes p values pool .wait g (calls tr) do return { g with status := ← r } := by
  obtain rfl := runs_request.mp run
  exact .wait g r

/-- A template is rendered in the folder of the profile. -/
theorem templateText_eq {folder : Path} (found : p.profiles.profileFolder pool = .ok folder)
    (file : String) (context : Fields Template.Value) :
    templateText p pool file context =
      renderTemplate p.profiles.files (folder.child file) context := by
  unfold templateText
  rw [found]
  rfl

theorem templateText_error {e : Error} (missing : p.profiles.profileFolder pool = .error e)
    (file : String) (context : Fields Template.Value) :
    templateText p pool file context = .error e := by
  unfold templateText
  rw [missing]
  rfl

end

/-- The attempt of a pool goes through all its steps in their order up to the first one
that fails. -/
theorem provisionPool_goes (p : Provisioner) (values : Values) (pool : NodePool)
    {tr : List (Exchange Service)} {r : Except Error String}
    (run : Prog.Runs (p.provisionPool values pool).outcome tr r) :
    ∃ passed last failure, Goes p values pool Step.all .start passed (calls tr) last failure ∧
      r = conclusion last failure := by
  suffices h : Realizes p values pool Step.all .start (p.provisionPool values pool) from
    h tr r run
  simp only [Provisioner.provisionPool, Profiles.renderStack, Profiles.prepareUserData,
    bind_assoc, pure_bind]
  refine .step (fun price => { Progress.start with price }) (fun _ _ => runs_spotPrice _)
    fun _ price _ => ?_
  refine .lift (fun e missing => ?_) fun folder found => ?_
  · have fails := @Takes.userData p values pool { Progress.start with price }
    rw [templateText_error missing] at fails
    exact fails
  refine .step (fun rendered => { Progress.start with price, rendered }) (fun tr r ran => ?_)
    fun _ rendered _ => ?_
  · obtain ⟨rfl, rfl⟩ := Action.runs_liftM.mp ran
    rw [← templateText_eq found]
    exact .userData _
  refine .step (fun payload => { Progress.start with price, rendered, payload })
    (fun tr r ran => ?_) fun _ payload _ => ?_
  · rw [profileFolder_eq_ok found] at ran
    exact runs_convert _ ran
  let g : Progress := { Progress.start with price, rendered, payload }
  refine .step (fun _ => g) (fun tr r ran => runs_publish g ran) fun _ uri published => ?_
  obtain rfl := publish_address published
  refine .log (.lift (fun e missing => ?_) fun folder found => ?_)
  · have fails := @Takes.document p values pool { Progress.start with price, rendered, payload }
    rw [templateText_error missing] at fails
    exact fails
  refine .step (fun document => { Progress.start with price, rendered, payload, document })
    (fun tr r ran => ?_) fun _ document _ => ?_
  · obtain ⟨rfl, rfl⟩ := Action.runs_liftM.mp ran
    rw [← templateText_eq found]
    exact .document _
  refine .log (.step (fun _ => { Progress.start with price, rendered, payload, document })
    (fun tr r ran => runs_apply _ ran rfl) fun _ _ _ => ?_)
  refine .step (fun status => { Progress.start with price, rendered, payload, document, status })
    (fun tr r ran => runs_wait _ ran) fun _ status _ => ?_
  exact .log .arrived

/-! ## Attempts come to an end -/

open Prog (Uncut)
open NodePools.Action

theorem uncut_spotPrice (pool : NodePool) (region : String) :
    Uncut (spotPrice pool region).outcome := by
  unfold spotPrice
  split
  · exact .done _
  · exact uncut_bind (.request _) fun info => .done _
  · exact .done _

theorem uncut_publish (scheme bucket : String) (content : Bytes) :
    Uncut (Publisher.publish scheme bucket content).outcome := by
  refine uncut_bind (uncut_mapError (uncut_bind (.request _) fun _ => .request _)) fun _ => ?_
  exact uncut_bind (Service.uncut_log ..) fun _ => .done _

/-- The attempt of a pool is never cut off. -/
theorem uncut_provisionPool (p : Provisioner) (values : Values) (pool : NodePool) :
    Uncut (p.provisionPool values pool).outcome := by
  simp only [Provisioner.provisionPool, Profiles.renderStack, Profiles.prepareUserData,
    bind_assoc, pure_bind]
  refine uncut_bind (uncut_spotPrice ..) fun price => ?_
  refine uncut_bind (uncut_liftM _) fun folder => uncut_bind (uncut_liftM _) fun rendered => ?_
  refine uncut_bind (uncut_mapError (.request _)) fun payload => ?_
  refine uncut_bind (uncut_publish ..) fun uri => uncut_bind (Service.uncut_log ..) fun _ => ?_
  refine uncut_bind (uncut_liftM _) fun folder => uncut_bind (uncut_liftM _) fun document => ?_
  refine uncut_bind (Service.uncut_log ..) fun _ => uncut_bind (.request _) fun _ => ?_
  refine uncut_bind (.request _) fun status => ?_
  exact uncut_bind (Service.uncut_log ..) fun _ => .done _

end Attempt
end NodePools
