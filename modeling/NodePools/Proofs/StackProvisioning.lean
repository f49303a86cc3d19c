import NodePools.Aws.Backend
import NodePools.Proofs.Convergence
import NodePools.Proofs.Interpretation
import NodePools.Proofs.Neighbours

/-!
# Provisioning over stacks

Over the clients, the requests of a provisioner are calls to services, and the pools of a
cluster make these calls at the same time.  `Backend.Provisions` holds of every run of this,
whatever is answered and whatever order the calls come in; `Provisioner.provision` over the
clients is such a run (`Backend.provisions_of_run`).

The requests of a pool show in its calls: what they show of stacks are the calls that apply
the pool's stack and those that wait for it (`fate_of_goes`).  So a run ends without an error
only if every stack has converged, and a stack that has not is told of by the error that goes
with it (`provision_over_stacks`).
-/

namespace NodePools.Aws

open Attempt Stacks
open Prog (Runs)

variable {τ : Type}

/-! ## What a trace tells of stacks -/

/-- What an exchange with a client or at the site tells of stacks. -/
def eventOf? : Exchange ((Client τ).sum Site) → Option (StackEvent τ)
  | ⟨.inl op, answer⟩ => stackEvent? ⟨op, answer⟩
  | ⟨.inr _, _⟩ => none

/-- What a trace of the clients and the site tells of stacks. -/
def eventsOf (tr : List (Exchange ((Client τ).sum Site))) : List (StackEvent τ) :=
  tr.filterMap eventOf?

theorem eventsOf_eq (tr : List (Exchange ((Client τ).sum Site))) :
    eventsOf tr = (ofFirst tr).filterMap stackEvent? := by
  rw [ofFirst, List.filterMap_filterMap]
  refine List.filterMap_congr fun e _ => ?_
  obtain ⟨op | op, answer⟩ := e <;> rfl

/-! ## Whose exchanges are in a trace -/

/-- Exchanges of the one who provisions. -/
def byMain (tr : List (Exchange ((Client τ).sum Site))) :
    List (Option Nat × Exchange ((Client τ).sum Site)) := tr.map fun e => (none, e)

/-- Exchanges of pools, by their places. -/
def byPools (tr : List (Nat × Exchange ((Client τ).sum Site))) :
    List (Option Nat × Exchange ((Client τ).sum Site)) := tr.map fun e => (some e.1, e.2)

theorem own_byMain (i : Nat) (tr : List (Exchange ((Client τ).sum Site))) :
    own (some i) (byMain tr) = [] :=
  own_map_other (Option.some_ne_none i).symm tr

theorem own_byPools (i : Nat) (tr : List (Nat × Exchange ((Client τ).sum Site))) :
    own (some i) (byPools tr) = own i tr := by
  simp only [own, byPools, List.filterMap_map, Function.comp_def, Option.some.injEq]

/-- Where nothing is asked of stacks in another name, what is asked in one name is all. -/
theorem eventsOf_own {whose : Option Nat}
    {tr : List (Option Nat × Exchange ((Client τ).sum Site))}
    (only : ∀ e ∈ tr, (eventOf? e.2).isSome → e.1 = whose) :
    eventsOf (own whose tr) = eventsOf (tr.map Prod.snd) := by
  induction tr with
  | nil => rfl
  | cons e tr ih =>
    obtain ⟨here, later⟩ := List.forall_mem_cons.mp only
    obtain ⟨other, e⟩ := e
    by_cases same : other = whose
    · subst same
      have rest := ih later
      rw [eventsOf, eventsOf] at rest ⊢
      rw [own_cons_self, List.map_cons, List.filterMap_cons, List.filterMap_cons, rest]
    · have silent : eventOf? e = none := Option.not_isSome_iff_eq_none.mp (mt here same)
      rw [own_cons_other same, ih later, List.map_cons, eventsOf, eventsOf,
        List.filterMap_cons_none silent]

variable [Seconds τ]

/-! ## What requests show -/

/-- What the request of a provisioner shows of stacks.  Those that list or delete stacks are
no part of provisioning, and nothing is said of them. -/
def Shows : Exchange Service → List (StackEvent τ) → Prop
  | ⟨.inl (.apply name template tags), r⟩, events =>
    Applies name template (tags.mapValues .text) events r
  | ⟨.inl (.wait name timeout interval), r⟩, events => Awaits name timeout interval events r
  | ⟨.inl (.list _), _⟩, _ | ⟨.inl (.delete _), _⟩, _ => True
  | ⟨.inl (.ensureBucket _), _⟩, events | ⟨.inl (.put ..), _⟩, events | ⟨.inr _, _⟩, events =>
    events = []

theorem shows_of_meaning (b : Backend) {op : CloudOp} {answer : op.Answer}
    {tr : List (Exchange (Client τ))} (run : Runs (b.meaning op) tr answer) :
    Shows (.cloud op answer) (stackEvents tr) := by
  cases op with
  | ensureBucket bucket => exact (ObjectStore.quiet_ensureBucket b.region bucket).runs run
  | put bucket key content => exact (ObjectStore.quiet_put b.region bucket key content).runs run
  | apply name template tags => exact Stacks.runs_apply run
  | wait name timeout interval => exact Stacks.runs_wait run
  | list | delete => trivial

/-- A program over the clients follows the program, and its requests show as they should; those
at the site stay what they are. -/
theorem runs_overClients (b : Backend) {α : Type} {p : Prog Service α}
    {tr : List (Exchange ((Client τ).sum Site))} {a : α} (run : Runs (b.overClients p) tr a) :
    ∃ es, Runs p es a ∧ InParts Shows (calls es) (eventsOf tr) ∧
      ∀ op answer, Exchange.site op answer ∈ es → ⟨.inr op, answer⟩ ∈ tr := by
  obtain ⟨es, ran, parts, kept⟩ := Prog.runs_interpret_either (f := stackEvent?) (R := Shows)
    (fun _ _ _ asked => shows_of_meaning b asked) (fun _ _ => rfl) run
  rw [← eventsOf_eq] at parts
  refine ⟨es, ran, parts.filter fun e part shows silent => ?_, kept⟩
  obtain ⟨op | op, answer⟩ := e
  · cases silent
  · exact shows

/-! ## How it goes with the stack of a pool -/

/-- How it goes with the stack of a pool. -/
abbrev PoolFate (p : Provisioner) (pool : NodePool) (events : List (StackEvent τ))
    (failure : Option Error) : Prop :=
  Fate (stackName p.cluster pool) ((Tags.encode p.cluster.id pool).mapValues .text) p.waitTimeout
    p.waitInterval events failure

section

variable {p : Provisioner} {values : Values} {pool : NodePool} {passed : List Step}
  {g last : Progress} {cs : List (Exchange Service)} {failure : Option Error}
  {events : List (StackEvent τ)}

/-- The steps before a stack is applied show nothing of stacks. -/
theorem no_events_before_apply
    (goes : Goes p values pool [.price, .userData, .convert, .publish, .document] g passed cs last
      failure) (shows : InParts Shows cs events) : events = [] := by
  refine shows.eq_nil fun e mem part of_e => ?_
  obtain ⟨step, inside, g, cs, r, takes, mem⟩ := goes.of_mem mem
  cases takes with
  | unpriced | unknownStrategy | userData | document => cases mem
  | priced | convert | bucketRefused =>
    obtain rfl := List.mem_singleton.mp mem
    exact of_e
  | publish =>
    rcases List.mem_cons.mp mem with rfl | mem
    · exact of_e
    · obtain rfl := List.mem_singleton.mp mem
      exact of_e
  | apply | wait => exact absurd inside (by decide)

theorem shows_apply {r : Except Error Progress} (takes : Takes p values pool .apply g cs r)
    (shows : InParts Shows cs events) : ∃ answer,
      Applies (stackName p.cluster pool) g.document
        ((Tags.encode p.cluster.id pool).mapValues .text) events answer ∧
      r = answer.map fun _ => g := by
  cases takes with
  | apply _ answer =>
    refine ⟨answer, shows.singleton, ?_⟩
    cases answer <;> rfl

theorem shows_wait {r : Except Error Progress} (takes : Takes p values pool .wait g cs r)
    (shows : InParts Shows cs events) : ∃ answer,
      Awaits (stackName p.cluster pool) p.waitTimeout p.waitInterval events answer ∧
      r = answer.map fun status => { g with status } := by
  cases takes with
  | wait _ answer =>
    refine ⟨answer, shows.singleton, ?_⟩
    cases answer <;> rfl

/-- What the steps of an attempt show is how it goes with the stack of its pool. -/
theorem fate_of_goes (goes : Goes p values pool Step.all .start passed cs last failure)
    (shows : InParts Shows cs events) : PoolFate p pool events failure := by
  have parts : Goes p values pool
    ([.price, .userData, .convert, .publish, .document] ++ [.apply, .wait]) .start passed cs last
      failure := goes
  rcases parts.split with ⟨e, rfl, stopped⟩ | ⟨mid, later, cs₁, cs₂, rfl, first, goes⟩
  · obtain rfl := no_events_before_apply stopped shows
    exact .unapplied e
  obtain ⟨before, rest, rfl, silent, shown⟩ := shows.split
  obtain rfl := no_events_before_apply first silent
  rw [List.nil_append]
  cases goes with
  | stopped takes =>
    obtain ⟨answer, applies, failed⟩ := shows_apply takes shown
    rcases answer with e | ⟨⟩ <;> cases failed
    exact .refused applies
  | passed takes goes =>
    obtain ⟨applying, waiting, rfl, applied, awaited⟩ := shown.split
    obtain ⟨answer, applies, ended⟩ := shows_apply takes applied
    rcases answer with e | ⟨⟩ <;> cases ended
    cases goes with
    | stopped waits =>
      obtain ⟨answer, awaits, failed⟩ := shows_wait waits awaited
      rcases answer with e | status <;> cases failed
      exact .lost applies awaits
    | passed waits goes =>
      cases goes
      rw [List.append_nil] at awaited
      obtain ⟨answer, awaits, ended⟩ := shows_wait waits awaited
      rcases answer with e | status <;> cases ended
      exact .converged applies awaits

end

/-- The error of a result, if there is one. -/
def errorOf? {α : Type} : Except Error α → Option Error
  | .error e => some e
  | .ok _ => none

/-- The calls of a pool over the clients are how it goes with its stack. -/
theorem fate_of_runs (b : Backend) {p : Provisioner} {values : Values} {pool : NodePool}
    {tr : List (Exchange ((Client τ).sum Site))} {r : Except Error String}
    (run : Runs (b.overClients (p.provisionPool values pool).outcome) tr r) :
    PoolFate p pool (eventsOf tr) (errorOf? r) := by
  obtain ⟨es, ran, shows, -⟩ := runs_overClients b run
  obtain ⟨passed, last, failure, goes, rfl⟩ := provisionPool_goes p values pool ran
  have same : errorOf? (conclusion last failure) = failure := by cases failure <;> rfl
  rw [same]
  exact fate_of_goes goes shows

/-- What is no call shows nothing. -/
theorem no_events_of_calls (b : Backend) {r : Except Error Unit} {x : Action Service Unit}
    (silent : ∀ es r, Runs x.outcome es r → calls es = [])
    {tr : List (Exchange ((Client τ).sum Site))} (run : Runs (b.overClients x.outcome) tr r) :
    eventsOf tr = [] := by
  obtain ⟨es, ran, shows, -⟩ := runs_overClients b run
  rw [silent es r ran] at shows
  generalize eventsOf tr = events at shows
  cases shows
  rfl

/-! ## Runs of provisioning -/

variable {σ : Type}

/-- From the first state, provisioning over the clients asks what is in the trace, ends with
the result and comes to the second state.  The trace tells whose each exchange is: that of a
pool, by its place, or of the one who provisions. -/
inductive Backend.Provisions (b : Backend) (p : Provisioner) (values : Values)
    (answer : Handler ((Client τ).sum Site) σ) (s : σ) :
    List (Option Nat × Exchange ((Client τ).sum Site)) → Except Error Unit → σ → Prop
  | idle {tr : List (Exchange ((Client τ).sum Site))} {r : Except Error Unit} {s' : σ} :
    p.cluster.targets = [] →
    Runs (b.overClients (p.log .info "No node pools to provision").outcome) tr r →
    answer.Plays s tr s' → Provisions b p values answer s (byMain tr) r s'
  | busy {first last : List (Exchange ((Client τ).sum Site))}
    {tr : List (Nat × Exchange ((Client τ).sum Site))} {results : List (Except Error String)}
    {r : Except Error Unit} {s₁ s₂ s' : σ} :
    p.cluster.targets ≠ [] →
    Runs (b.overClients
      (p.log .info s!"Provisioning {p.cluster.targets.length} node pools").outcome) first
      (.ok ()) →
    answer.Plays s first s₁ →
    Interleaved answer ((p.attempts values).map b.overClients) s₁ tr results s₂ →
    Runs (b.overClients (p.conclude (p.cluster.targets.zip results)).outcome) last r →
    answer.Plays s₂ last s' →
    Provisions b p values answer s (byMain first ++ byPools tr ++ byMain last) r s'

variable {b : Backend} {p : Provisioner} {values : Values}
  {answer : Handler ((Client τ).sum Site) σ} {s s' : σ}

theorem overClients_bind {α β : Type} (x : Prog Service α) (f : α → Prog Service β) :
    (b.overClients (x.bind f) : Prog ((Client τ).sum Site) β) =
      (b.overClients x).bind fun a => b.overClients (f a) :=
  Prog.interpret_bind x f

theorem overClients_attemptAll {α β : Type} (task : α → Prog Service β) (items : List α) :
    (b.overClients (Settle.attemptAll task items) : Prog ((Client τ).sum Site) _) =
      Settle.attemptAll (fun a => b.overClients (task a)) items :=
  Prog.interpret_attemptAll task items

/-- A log record does not fail. -/
theorem ok_of_log {level : Level} {message : String} {r : Except Error Unit}
    (run : (b.overClients (p.log level message).outcome).run answer s = (some r, s')) :
    r = .ok () := by
  obtain ⟨tr, ran, -⟩ := Prog.run_eq_some_iff.mp run
  obtain ⟨es, logged, -⟩ := runs_overClients b ran
  exact (Service.runs_log logged).2

/-- To provision the pools one after the other is a run of provisioning. -/
theorem Backend.provisions_of_run {r : Except Error Unit}
    (run : (b.overClients (p.provision values).outcome).run answer s = (some r, s')) :
    ∃ tr, b.Provisions p values answer s tr r s' := by
  unfold Provisioner.provision at run
  dsimp only at run
  by_cases none : p.cluster.targets = []
  · rw [if_pos (List.isEmpty_iff.mpr none)] at run
    obtain ⟨tr, ran, plays⟩ := Prog.run_eq_some_iff.mp run
    exact ⟨_, .idle none ran plays⟩
  rw [if_neg (mt List.isEmpty_iff.mp none), Action.outcome_bind, overClients_bind] at run
  obtain ⟨told, s₁, logged, run⟩ := Prog.run_bind_eq_some_iff.mp run
  obtain rfl := ok_of_log logged
  obtain ⟨first, opened, plays⟩ := Prog.run_eq_some_iff.mp logged
  change (b.overClients (Action.outcome (_ >>= _))).run answer s₁ = _ at run
  rw [Action.outcome_bind, overClients_bind] at run
  obtain ⟨attempts, s₂, tried, run⟩ := Prog.run_bind_eq_some_iff.mp run
  change (b.overClients ((Settle.attemptAll _ _).bind _)).run answer s₁ = _ at tried
  rw [overClients_bind] at tried
  obtain ⟨results, s₃, tried, lifted⟩ := Prog.run_bind_eq_some_iff.mp tried
  cases lifted
  rw [overClients_attemptAll] at tried
  obtain ⟨pools, tr, order⟩ := interleaved_of_attemptAll tried
  obtain ⟨last, closed, ended⟩ := Prog.run_eq_some_iff.mp run
  rw [List.zip_of_prod pools rfl] at closed
  have order : Interleaved answer ((p.attempts values).map b.overClients) s₁ tr
      (results.map Prod.snd) s₂ := by
    rw [Provisioner.attempts, List.map_map]
    exact order
  exact ⟨_, .busy none opened plays order closed ended⟩

/-- The world answers what is asked in the order of the trace. -/
theorem Backend.Provisions.plays {r : Except Error Unit}
    {tr : List (Option Nat × Exchange ((Client τ).sum Site))}
    (run : b.Provisions p values answer s tr r s') : answer.Plays s (tr.map Prod.snd) s' := by
  have main (part : List (Exchange ((Client τ).sum Site))) : (byMain part).map Prod.snd = part := by
    simp only [byMain, List.map_map, Function.comp_def, List.map_id']
  have pools (part : List (Nat × Exchange ((Client τ).sum Site))) :
      (byPools part).map Prod.snd = part.map Prod.snd := by
    simp only [byPools, List.map_map, Function.comp_def]
  cases run with
  | idle _ _ plays =>
    rw [main]
    exact plays
  | busy _ _ opened order _ closed =>
    rw [List.map_append, List.map_append, main, pools, main]
    exact Handler.plays_append.mpr ⟨_, Handler.plays_append.mpr ⟨_, opened, order.plays⟩, closed⟩

/-- Whatever is asked of stacks is asked by a pool. -/
theorem Backend.Provisions.asked_by_pool {r : Except Error Unit}
    {tr : List (Option Nat × Exchange ((Client τ).sum Site))}
    (run : b.Provisions p values answer s tr r s') {whose : Option Nat}
    {e : Exchange ((Client τ).sum Site)} (mem : (whose, e) ∈ tr) (event : (eventOf? e).isSome) :
    ∃ i < p.cluster.targets.length, whose = some i := by
  have not_main {part : List (Exchange ((Client τ).sum Site))} (silent : eventsOf part = [])
      (mem : (whose, e) ∈ byMain part) : False := by
    obtain ⟨e', inside, same⟩ := List.mem_map.mp mem
    cases same
    rw [List.filterMap_eq_nil_iff.mp silent e inside] at event
    cases event
  cases run with
  | idle _ ran _ =>
    have silent := no_events_of_calls b (fun es r logged => (Service.runs_log logged).1) ran
    exact (not_main silent mem).elim
  | busy _ opened _ order closed _ =>
    have before := no_events_of_calls b (fun es r logged => (Service.runs_log logged).1) opened
    have after := no_events_of_calls b (fun es r ended => (runs_conclude ended).1) closed
    rcases List.mem_append.mp mem with mem | mem
    · rcases List.mem_append.mp mem with mem | mem
      · exact (not_main before mem).elim
      · obtain ⟨e', inside, same⟩ := List.mem_map.mp mem
        cases same
        have place := order.index_lt inside
        rw [List.length_map, Provisioner.attempts, List.length_map] at place
        exact ⟨_, place, rfl⟩
    · exact (not_main after mem).elim

/-! ## What a run tells -/

/-- A run of provisioning fails and tells of a pool with an error. -/
def Lists (r : Except Error Unit) (pool : NodePool) (e : Error) : Prop :=
  ∃ failures, r = .error (.provisioning failures) ∧ Fields.get? pool.name failures = some e

/-- What a run ends with tells of the error of each pool that failed. -/
theorem lists_of_conclude {results : List (Except Error String)} {r : Except Error Unit}
    {es : List (Exchange Service)} (length : results.length = p.cluster.targets.length)
    (run : Runs (p.conclude (p.cluster.targets.zip results)).outcome es r) {i : Nat}
    {pool : NodePool} {result : Except Error String} (found : p.cluster.targets[i]? = some pool)
    (at_i : results[i]? = some result) :
    (r = .ok () → errorOf? result = none) ∧ ∀ e, errorOf? result = some e → Lists r pool e := by
  have names := names_of_targets p.cluster
  rw [← List.map_fst_zip length.ge, List.map_map] at names
  cases result with
  | ok status => exact ⟨fun _ => rfl, nofun⟩
  | error e =>
    have told := get?_failuresByName names
      (List.mem_of_getElem? (List.getElem?_zip_eq_some.mpr ⟨found, at_i⟩))
    have fails := (runs_conclude run).2
    rw [if_neg fun none => by rw [none] at told; cases told] at fails
    refine ⟨fun well => ?_, fun e' same => ?_⟩
    · cases well.symm.trans fails
    · cases same
      exact ⟨_, fails, told⟩

/-- What a pool asks in a run is its attempt, and the run ends without an error only if that has
none, and tells of its error if it has one. -/
theorem Backend.Provisions.attempt {r : Except Error Unit}
    {tr : List (Option Nat × Exchange ((Client τ).sum Site))}
    (run : b.Provisions p values answer s tr r s') {i : Nat} {pool : NodePool}
    (found : p.cluster.targets[i]? = some pool) :
    ∃ result, Runs (b.overClients (p.provisionPool values pool).outcome) (own (some i) tr) result ∧
      (r = .ok () → errorOf? result = none) ∧ ∀ e, errorOf? result = some e → Lists r pool e := by
  cases run with
  | idle none =>
    rw [none] at found
    cases found
  | @busy _ _ tr results _ _ _ _ _ _ _ order closed _ =>
    let task : Prog ((Client τ).sum Site) _ := b.overClients (p.provisionPool values pool).outcome
    have at_i : ((p.attempts values).map b.overClients)[i]? = some task := by
      simp only [Provisioner.attempts, List.getElem?_map, found, Option.map_some, task]
    obtain ⟨result, gave, ran⟩ := order.runs at_i
    obtain ⟨es, concludes, -⟩ := runs_overClients b closed
    have length : results.length = p.cluster.targets.length := by
      rw [order.length_eq, List.length_map, Provisioner.attempts, List.length_map]
    rw [own_append, own_append, own_byMain, own_byMain, own_byPools, List.nil_append,
      List.append_nil]
    exact ⟨result, ran, lists_of_conclude length concludes found gave⟩

/-- A run tells of each pool how it went with its stack: without an error only if there was
none, and with the error if there was one. -/
theorem Backend.Provisions.fate {r : Except Error Unit}
    {tr : List (Option Nat × Exchange ((Client τ).sum Site))}
    (run : b.Provisions p values answer s tr r s') {i : Nat} {pool : NodePool}
    (found : p.cluster.targets[i]? = some pool) :
    ∃ failure, PoolFate p pool (eventsOf (own (some i) tr)) failure ∧
      (r = .ok () → failure = none) ∧ ∀ e, failure = some e → Lists r pool e := by
  obtain ⟨result, ran, tells⟩ := run.attempt found
  exact ⟨_, fate_of_runs b ran, tells⟩

/-- For provisioning over the clients, in every world: to provision the pools one after the
other is a run of it, if no stack is looked at more often than allowed.  In each of its runs,
whatever order the calls of the pools come in, whatever is asked of stacks is asked by a
target pool.  If the run ends without an error, the stack of every target pool was created or
updated and has converged afterwards.  A pool whose stack was refused, went astray or was not
settled in time is told of in the error of the run, with an error for just that; of the last,
as long as the timeout can be told in digits, as every double can. -/
theorem provision_over_stacks (b : Backend) (p : Provisioner) (values : Values)
    (answer : Handler ((Client τ).sum Site) σ) (s : σ) :
    (∀ r s', (b.overClients (p.provision values).outcome).run answer s = (some r, s') →
      ∃ tr, b.Provisions p values answer s tr r s') ∧
    ∀ tr r s', b.Provisions p values answer s tr r s' →
      (∀ whose e, (whose, e) ∈ tr → (eventOf? e).isSome →
        ∃ i < p.cluster.targets.length, whose = some i) ∧
      ∀ i pool, p.cluster.targets[i]? = some pool →
        let name := stackName p.cluster pool
        let events := eventsOf (own (some i) tr)
        (r = .ok () → Converges name ((Tags.encode p.cluster.id pool).mapValues .text) events) ∧
        (∀ e, Rejected events e → Lists r pool (.stack .apply (.text name) e.detail)) ∧
        (Astray events → ∃ reason, Lists r pool (.stack .wait (.text name) reason)) ∧
        (p.waitTimeout.wholeText?.isSome → OutOfTime p.waitTimeout p.waitInterval events →
          Lists r pool (.stackTimeout (.text name) (.ofNumber p.waitTimeout))) := by
  refine ⟨fun r s' run => Backend.provisions_of_run run, fun tr r s' run =>
    ⟨fun whose e mem event => run.asked_by_pool mem event, fun i pool found => ?_⟩⟩
  obtain ⟨failure, fate, well, lists⟩ := run.fate found
  refine ⟨fun ok => ?_, fun e rejected => ?_, fun astray => ?_, fun told late => ?_⟩
  · cases well ok
    exact fate.converges
  · exact lists _ (fate.rejected rejected)
  · obtain ⟨reason, failed⟩ := fate.astray astray
    exact ⟨reason, lists _ failed⟩
  · exact lists _ (fate.outOfTime told late)

/-! ## Four fates of one pool -/

/-- What answers a client when the service of the stacks is as given: what it answers to the
call that creates a stack, to the one that updates it, and to a look at it, by the number of
the events that were before.  The clock goes on by a pace with every event. -/
def answering (create update : Except Error Datum) (look : Nat → Except Error Datum) (pace : Int)
    (past : Nat) : (op : ClientOp Number) → op.Answer
  | .call _ method _ =>
    if method = "create_stack" then create
    else if method = "update_stack" then update
    else if method = "describe_stacks" then look past
    else Except.ok (.table [])
  | .page .. => Except.ok none
  | .now => Number.whole (pace * past)
  | .connect .. | .reuse .. | .paginate .. | .waiter .. | .sleep _ | .log _ => ()

/-- A world with a given service of the stacks in which all else goes well.  Its state is what
it was asked of stacks. -/
def watching (create update : Except Error Datum) (look : Nat → Except Error Datum) (pace : Int) :
    Handler ((Client Number).sum Site) (List (StackEvent Number))
  | .inl op, past =>
    let a := answering create update look pace past.length op
    (a, past ++ (stackEvent? ⟨op, a⟩).toList)
  | .inr op, past => (refusing "" (.inr op), past)

theorem plays_watching {create update : Except Error Datum} {look : Nat → Except Error Datum}
    {pace : Int} {past now : List (StackEvent Number)}
    {tr : List (Exchange ((Client Number).sum Site))}
    (plays : (watching create update look pace).Plays past tr now) : now = past ++ eventsOf tr := by
  induction plays with
  | nil s => exact (List.append_nil s).symm
  | @cons s s' op tr _ ih =>
    rw [ih]
    cases op with
    | inl op =>
      simp only [watching, eventsOf, List.filterMap_cons, eventOf?]
      cases stackEvent? ⟨op, answering create update look pace s.length op⟩ <;> simp
    | inr op => rfl

/-- In a world that remembers what it was asked of stacks, that is what the only pool asked. -/
theorem exists_run_watching {b : Backend} {p : Provisioner} {create update : Except Error Datum}
    {look : Nat → Except Error Datum} {pace : Int} {r : Except Error Unit}
    {now : List (StackEvent Number)} (one : p.cluster.targets.length = 1)
    (run : (b.overClients (p.provision []).outcome).run (watching create update look pace) [] =
      (some r, now)) :
    ∃ tr, b.Provisions p [] (watching create update look pace) [] tr r now ∧
      eventsOf (own (some 0) tr) = now := by
  obtain ⟨tr, made⟩ := Backend.provisions_of_run run
  refine ⟨tr, made, ?_⟩
  rw [plays_watching made.plays, List.nil_append]
  refine eventsOf_own fun e mem event => ?_
  obtain ⟨i, inside, whose⟩ := made.asked_by_pool mem event
  rw [one, Nat.lt_one_iff] at inside
  rw [whose, inside]

/-- The status of the stack that an answer describes. -/
def statusOf? : Except Error Datum → Option String
  | .ok (.table [("Stacks", .list [.table [("StackStatus", .text status)]])]) => some status
  | _ => none

/-- Whether a stack was refused and nothing else was asked. -/
def wasRefused : List (StackEvent Number) → Bool
  | [.call "create_stack" _ (.error (.client e))] => e.codeText != "AlreadyExistsException"
  | _ => false

/-- Whether the first look showed that a stack was rolled back. -/
def wasRolledBack : List (StackEvent Number) → Bool
  | [.call "create_stack" .., .clock _, .call "describe_stacks" _ answer] =>
    statusOf? answer == some "ROLLBACK_COMPLETE"
  | _ => false

/-- Whether the first look showed that a stack was being created, twenty minutes later. -/
def wasLate : List (StackEvent Number) → Bool
  | [.call "create_stack" .., .clock (.whole 600), .call "describe_stacks" _ answer,
      .clock (.whole 1800)] => statusOf? answer == some "CREATE_IN_PROGRESS"
  | _ => false

/-- Whether a run came to an end after events of a kind. -/
def endedAfter (test : List (StackEvent Number) → Bool) :
    Option (Except Error Unit) × List (StackEvent Number) → Bool
  | (some _, now) => test now
  | (none, _) => false

theorem describes_of_statusOf? {answer : Except Error Datum} {status : String}
    (h : statusOf? answer = some status) : ∃ d, answer = .ok d ∧ Describes d status := by
  unfold statusOf? at h
  split at h
  · cases h
    exact ⟨_, rfl, _, _, [], rfl, rfl, rfl⟩
  · cases h

theorem rejected_of_wasRefused {events : List (StackEvent Number)} (h : wasRefused events) :
    ∃ e, Rejected events e := by
  unfold wasRefused at h
  split at h
  · exact ⟨_, .creation (List.mem_singleton_self _) (bne_iff_ne.mp h)⟩
  · cases h

theorem astray_of_wasRolledBack {events : List (StackEvent Number)} (h : wasRolledBack events) :
    Astray events := by
  unfold wasRolledBack at h
  split at h
  · obtain ⟨d, rfl, describes⟩ := describes_of_statusOf? (beq_iff_eq.mp h)
    exact ⟨_, _, List.mem_of_getElem? (i := 2) rfl,
      .settled describes (by decide) (by decide) (by decide)⟩
  · cases h

theorem outOfTime_of_wasLate {events : List (StackEvent Number)} (h : wasLate events) :
    OutOfTime (.whole 600) (.whole 10) events := by
  unfold wasLate at h
  split at h
  · obtain ⟨d, rfl, describes⟩ := describes_of_statusOf? (beq_iff_eq.mp h)
    exact ⟨.whole 600, .whole 600, .whole 10, [_, _], _, _, .whole 1800, [], rfl, rfl, rfl, rfl,
      .working describes (by decide), by decide⟩
  · cases h

/-- A backend that looks at most five times. -/
def fiveLooks : Backend := ⟨.text "eu-central-1", 5⟩

/-- Provisioning of a cluster with one pool of workers over the clients. -/
def onlyWorker : Prog ((Client Number).sum Site) (Except Error Unit) :=
  fiveLooks.overClients ((oneWorker "kube" "plain").provision []).outcome

theorem exists_run_of_endedAfter {test : List (StackEvent Number) → Bool}
    {x : Option (Except Error Unit) × List (StackEvent Number)} (h : endedAfter test x) :
    ∃ r now, x = (some r, now) ∧ test now := by
  obtain ⟨_ | r, now⟩ := x
  · cases h
  · exact ⟨r, now, rfl, h⟩

/-- A run of provisioning a cluster with one pool of workers over the clients. -/
def OneWorkerRuns (tr : List (Option Nat × Exchange ((Client Number).sum Site)))
    (r : Except Error Unit) : Prop :=
  ∃ (answer : Handler ((Client Number).sum Site) (List (StackEvent Number)))
      (s' : List (StackEvent Number)),
    fiveLooks.Provisions (oneWorker "kube" "plain") [] answer [] tr r s'

set_option maxRecDepth 100000 in
/-- The stack of a pool is there and comes to be as asked for, or is refused, or is rolled
back, or is still being created when the time is up. -/
theorem oneWorker_over_stacks :
    let p := oneWorker "kube" "plain"
    let pool : NodePool := ⟨"plain", "worker", "m5.large", .none, 0, 9⟩
    let name := stackName p.cluster pool
    (∃ tr, OneWorkerRuns tr (.ok ()) ∧
      Converges name ((Tags.encode "kube" pool).mapValues .text) (eventsOf (own (some 0) tr))) ∧
    (∃ tr r e, OneWorkerRuns tr r ∧ Rejected (eventsOf (own (some 0) tr)) e ∧
      Lists r pool (.stack .apply (.text name) e.detail)) ∧
    (∃ tr r reason, OneWorkerRuns tr r ∧ Astray (eventsOf (own (some 0) tr)) ∧
      Lists r pool (.stack .wait (.text name) reason)) ∧
    ∃ tr r, OneWorkerRuns tr r ∧
      OutOfTime p.waitTimeout p.waitInterval (eventsOf (own (some 0) tr)) ∧
      Lists r pool (.stackTimeout (.text name) (.whole 600)) := by
  let p := oneWorker "kube" "plain"
  have told {answer : Handler ((Client Number).sum Site) (List (StackEvent Number))} {tr r s'}
      (run : fiveLooks.Provisions p [] answer [] tr r s') :=
    ((provision_over_stacks fiveLooks p [] answer []).2 tr r s' run).2 0 _ rfl
  refine ⟨?_, ?_, ?_, ?_⟩
  · let answer := watching (refusal "AlreadyExistsException" "it is there")
      (refusal "ValidationError" "No updates are to be performed.")
      (fun past => if past < 5 then refusal "Throttling" "later" else
        if past < 7 then described "UPDATE_IN_PROGRESS" else described "UPDATE_COMPLETE") 1
    have run := run_of_wentWell onlyWorker answer [] (by decide +kernel)
    obtain ⟨tr, made, -⟩ := exists_run_watching rfl run
    exact ⟨tr, ⟨answer, _, made⟩, (told made).1 rfl⟩
  · let answer := watching (refusal "AccessDenied" "not allowed") (described "")
      (fun _ => described "") 1
    have ended : endedAfter wasRefused (onlyWorker.run answer []) := by decide +kernel
    obtain ⟨r, now, run, refused⟩ := exists_run_of_endedAfter ended
    obtain ⟨tr, made, rfl⟩ := exists_run_watching rfl run
    obtain ⟨e, rejected⟩ := rejected_of_wasRefused refused
    exact ⟨tr, r, e, ⟨answer, _, made⟩, rejected, (told made).2.1 e rejected⟩
  · let answer := watching (described "") (described "") (fun _ => described "ROLLBACK_COMPLETE") 1
    have ended : endedAfter wasRolledBack (onlyWorker.run answer []) := by decide +kernel
    obtain ⟨r, now, run, rolledBack⟩ := exists_run_of_endedAfter ended
    obtain ⟨tr, made, rfl⟩ := exists_run_watching rfl run
    have astray := astray_of_wasRolledBack rolledBack
    obtain ⟨reason, lists⟩ := (told made).2.2.1 astray
    exact ⟨tr, r, reason, ⟨answer, _, made⟩, astray, lists⟩
  · let answer := watching (described "") (described "") (fun _ => described "CREATE_IN_PROGRESS")
      600
    have ended : endedAfter wasLate (onlyWorker.run answer []) := by decide +kernel
    obtain ⟨r, now, run, late⟩ := exists_run_of_endedAfter ended
    obtain ⟨tr, made, rfl⟩ := exists_run_watching rfl run
    have outOfTime := outOfTime_of_wasLate late
    have lists := (told made).2.2.2 (by decide +kernel) outOfTime
    exact ⟨tr, r, ⟨answer, _, made⟩, outOfTime, lists⟩

end NodePools.Aws
