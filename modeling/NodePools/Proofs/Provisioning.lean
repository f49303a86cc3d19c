import NodePools.Proofs.Finished
import NodePools.Proofs.Interleaving

/-!
# Provisioning

To provision a cluster is to make an attempt for every target pool, all of them at
the same time, and to fail in the end with what failed.  `Provisions` holds of
every run of this, whatever order the requests of the attempts come in; to make
the attempts one after the other, as `Provisioner.provision` does, is such a run
(`provisions_of_runs`).

A cluster's pools have distinct names, so what failed can be kept by name without
losing anything (`failuresByName_eq`).
-/

namespace NodePools

open Attempt
open Prog (Runs Uncut)

/-- The exchanges of the one who provisions, in a trace that tells whose each is. -/
def ofMain (tr : List (Exchange Service)) : List (Option Nat × Exchange Service) :=
  tr.map fun e => (none, e)

/-- The exchanges of the attempts, in a trace that tells whose each is. -/
def ofAttempts (tr : List (Nat × Exchange Service)) : List (Option Nat × Exchange Service) :=
  tr.map fun e => (some e.1, e.2)

theorem own_ofMain (i : Nat) (tr : List (Exchange Service)) : own (some i) (ofMain tr) = [] := by
  rw [own, ofMain, List.filterMap_map]
  exact List.filterMap_eq_nil_iff.mpr fun e _ => rfl

theorem own_ofAttempts (i : Nat) (tr : List (Nat × Exchange Service)) :
    own (some i) (ofAttempts tr) = own i tr := by
  simp only [own, ofAttempts, List.filterMap_map, Function.comp_def, Option.some.injEq]

theorem map_snd_ofMain (tr : List (Exchange Service)) : (ofMain tr).map Prod.snd = tr := by
  simp only [ofMain, List.map_map, Function.comp_def, List.map_id']

theorem map_snd_ofAttempts (tr : List (Nat × Exchange Service)) :
    (ofAttempts tr).map Prod.snd = tr.map Prod.snd := by
  simp only [ofAttempts, List.map_map, Function.comp_def]

namespace Provisioner

variable {σ : Type}

/-- The attempts of all target pools. -/
def attempts (p : Provisioner) (values : Values) : List (Prog Service (Except Error String)) :=
  p.cluster.targets.map fun pool => (p.provisionPool values pool).outcome

/-- From the first state, provisioning asks what is in the trace, ends with the result
and comes to the second state.  The trace tells whose each exchange is: that of an
attempt, by the place of its pool, or of the one who provisions. -/
inductive Provisions (p : Provisioner) (values : Values) (answer : Handler Service σ) (s : σ) :
    List (Option Nat × Exchange Service) → Except Error Unit → σ → Prop
  | idle {tr : List (Exchange Service)} {r : Except Error Unit} {s' : σ} :
    p.cluster.targets = [] → (p.log .info "No node pools to provision").outcome.Runs tr r →
    answer.Plays s tr s' → Provisions p values answer s (ofMain tr) r s'
  | busy {first last : List (Exchange Service)} {tr : List (Nat × Exchange Service)}
    {results : List (Except Error String)} {r : Except Error Unit} {s₁ s₂ s' : σ} :
    p.cluster.targets ≠ [] →
    (p.log .info s!"Provisioning {p.cluster.targets.length} node pools").outcome.Runs first
      (.ok ()) →
    answer.Plays s first s₁ → Interleaved answer (p.attempts values) s₁ tr results s₂ →
    (p.conclude (p.cluster.targets.zip results)).outcome.Runs last r → answer.Plays s₂ last s' →
    Provisions p values answer s (ofMain first ++ ofAttempts tr ++ ofMain last) r s'

end Provisioner

open Provisioner

variable {σ : Type} {p : Provisioner} {values : Values} {answer : Handler Service σ} {s s' : σ}

/-- To make the attempts one after the other is a run of provisioning, and asks the same. -/
theorem provisions_of_runs {asked : List (Exchange Service)} {r : Except Error Unit}
    (run : (p.provision values).outcome.Runs asked r) (plays : answer.Plays s asked s') :
    ∃ tr, tr.map Prod.snd = asked ∧ Provisions p values answer s tr r s' := by
  unfold Provisioner.provision at run
  dsimp only at run
  by_cases none : p.cluster.targets = []
  · rw [if_pos (List.isEmpty_iff.mpr none)] at run
    exact ⟨_, map_snd_ofMain asked, .idle none run plays⟩
  · rw [if_neg (mt List.isEmpty_iff.mp none)] at run
    rcases Action.runs_bind.mp run with ⟨e, rfl, logged⟩ | ⟨first, ⟨⟩, later, rfl, logged, ran⟩
    · cases (Service.runs_log logged).2
    rcases Action.runs_bind.mp ran with ⟨e, rfl, lifted⟩ | ⟨tried, results, last, rfl, lifted, closes⟩
    · obtain ⟨a, failed, _⟩ := Action.runs_lift.mp lifted
      cases failed
    · obtain ⟨results, same, attempted⟩ := Action.runs_lift.mp lifted
      cases same
      obtain ⟨s₁, opened, plays⟩ := Handler.plays_append.mp plays
      obtain ⟨s₂, worked, closed⟩ := Handler.plays_append.mp plays
      obtain ⟨pools, tr, rfl, order⟩ := interleaved_of_runs attempted worked
      rw [List.zip_of_prod pools rfl] at closes
      refine ⟨_, ?_, .busy none logged opened order closes closed⟩
      rw [List.map_append, List.map_append, map_snd_ofMain, map_snd_ofAttempts, map_snd_ofMain,
        List.append_assoc]

theorem provisions_of_run {r : Except Error Unit}
    (run : (p.provision values).outcome.run answer s = (some r, s')) :
    ∃ tr, Provisions p values answer s tr r s' := by
  obtain ⟨asked, ran, plays⟩ := Prog.run_eq_some_iff.mp run
  obtain ⟨tr, -, provisions⟩ := provisions_of_runs ran plays
  exact ⟨tr, provisions⟩

/-- The world answers what is asked in the order of the trace. -/
theorem Provisioner.Provisions.plays {tr : List (Option Nat × Exchange Service)}
    {r : Except Error Unit} (run : Provisions p values answer s tr r s') :
    answer.Plays s (tr.map Prod.snd) s' := by
  cases run with
  | idle _ _ plays =>
    rw [map_snd_ofMain]
    exact plays
  | busy _ _ opened order _ closed =>
    rw [List.map_append, List.map_append, map_snd_ofMain, map_snd_ofAttempts, map_snd_ofMain]
    exact Handler.plays_append.mpr ⟨_, Handler.plays_append.mpr ⟨_, opened, order.plays⟩, closed⟩

/-! ## What failed -/

/-- The errors of the attempts that failed, by the name of the pool. -/
def failed (attempts : List (Finished p values)) : Fields Error :=
  attempts.filterMap fun a => a.failure.map fun e => (a.pool.name, e)

theorem failed_eq_nil {attempts : List (Finished p values)} :
    failed attempts = [] ↔ ∀ a ∈ attempts, a.failure = none := by
  simp only [failed, List.filterMap_eq_nil_iff, Option.map_eq_none_iff]

theorem names_of_targets (c : Cluster) : (c.targets.map NodePool.name).Nodup :=
  c.distinct.sublist (List.filter_sublist.map _)

theorem names_of_attempts {attempts : List (Finished p values)}
    (pools : attempts.map Finished.pool = p.cluster.targets) :
    (attempts.map fun a => a.pool.name).Nodup := by
  have names := names_of_targets p.cluster
  rw [← pools, List.map_map] at names
  exact names

theorem distinct_failures {attempts : List (NodePool × Except Error String)}
    (names : (attempts.map fun a => a.1.name).Nodup) :
    Fields.Distinct ((Settle.failures attempts).map fun (pool, e) => (pool.name, e)) := by
  rw [Fields.Distinct, Fields.keys, List.map_map]
  refine names.sublist ?_
  clear names
  induction attempts with
  | nil => exact .slnil
  | cons a rest ih =>
    obtain ⟨pool, e | status⟩ := a
    · exact ih.cons_cons _
    · exact ih.cons _

/-- If the pools have distinct names, no failure takes the place of another one. -/
theorem failuresByName_of_distinct {attempts : List (NodePool × Except Error String)}
    (names : (attempts.map fun a => a.1.name).Nodup) :
    failuresByName attempts = (Settle.failures attempts).map fun (pool, e) => (pool.name, e) :=
  Fields.ofPairs_of_distinct (distinct_failures names)

/-- If the pools have distinct names, each that failed is found by its name. -/
theorem get?_failuresByName {attempts : List (NodePool × Except Error String)}
    (names : (attempts.map fun a => a.1.name).Nodup) {pool : NodePool} {e : Error}
    (mem : (pool, .error e) ∈ attempts) :
    Fields.get? pool.name (failuresByName attempts) = some e := by
  rw [failuresByName_of_distinct names]
  have failure : (pool, e) ∈ Settle.failures attempts := List.mem_filterMap.mpr ⟨_, mem, rfl⟩
  exact Fields.get?_eq_some_of_mem (distinct_failures names)
    (List.mem_map.mpr ⟨_, failure, rfl⟩)

/-- What failed is told by the attempts of the pools of a cluster, which have distinct names. -/
theorem failuresByName_eq {attempts : List (Finished p values)}
    (pools : attempts.map Finished.pool = p.cluster.targets) :
    failuresByName (attempts.map fun a => (a.pool, a.result)) = failed attempts := by
  have names : ((attempts.map fun a => (a.pool, a.result)).map fun a => a.1.name).Nodup := by
    rw [List.map_map]
    exact names_of_attempts pools
  rw [failuresByName_of_distinct names, Settle.failures, failed, List.filterMap_map,
    List.map_filterMap]
  congr 1
  funext a
  simp only [Function.comp_apply, Finished.result]
  cases a.failure <;> rfl

theorem runs_forM_log {items : Fields Error} {level : Level} {message : String × Error → String}
    {tr : List (Exchange Service)} {r : Except Error PUnit}
    (run : Runs (items.forM fun e => p.log level (message e)).outcome tr r) :
    calls tr = [] ∧ r = .ok () := by
  induction items generalizing tr r with
  | nil =>
    obtain ⟨rfl, rfl⟩ := Action.runs_pure.mp run
    exact ⟨rfl, rfl⟩
  | cons e rest ih =>
    obtain ⟨later, same, run⟩ := Service.runs_log_bind run
    rw [same]
    exact ih run

/-- What provisioning ends with calls nobody, and fails if a pool did. -/
theorem runs_conclude {attempts : List (NodePool × Except Error String)}
    {tr : List (Exchange Service)} {r : Except Error Unit}
    (run : Runs (p.conclude attempts).outcome tr r) :
    calls tr = [] ∧ r = if failuresByName attempts = [] then .ok ()
      else .error (.provisioning (failuresByName attempts)) := by
  unfold Provisioner.conclude at run
  cases found : failuresByName attempts with
  | nil =>
    rw [found] at run
    exact Service.runs_log run
  | cons e rest =>
    rw [found] at run
    rcases Action.runs_bind.mp run with ⟨e', rfl, logged⟩ | ⟨tr₁, ⟨⟩, tr₂, rfl, logged, thrown⟩
    · cases (runs_forM_log logged).2
    · obtain ⟨rfl, rfl⟩ := Action.runs_throw.mp thrown
      rw [calls_append, (runs_forM_log logged).1]
      exact ⟨rfl, rfl⟩

/-! ## What provisioning amounts to -/

/-- A trace of provisioning with its result, told by the attempts of the pools. -/
structure Accounted (p : Provisioner) (values : Values)
    (tr : List (Option Nat × Exchange Service)) (r : Except Error Unit)
    (attempts : List (Finished p values)) : Prop where
  /-- There is one attempt for each target pool, in the order of the cluster. -/
  pools : attempts.map Finished.pool = p.cluster.targets
  /-- The calls of an attempt are those made in its name. -/
  own_calls : ∀ i a, attempts[i]? = some a → calls (own (some i) tr) = a.calls
  /-- Every call is that of an attempt. -/
  no_others : ∀ e ∈ tr, e.2.isCall → ∃ i < attempts.length, e.1 = some i
  /-- The run fails if and only if an attempt did. -/
  fails : (∃ e, r = .error e) ↔ ∃ a ∈ attempts, a.failure.isSome
  /-- What it fails with are the errors of all attempts that failed, in their order. -/
  result : r = if failed attempts = [] then .ok () else .error (.provisioning (failed attempts))
  /-- The stacks applied are those of the attempts that came so far. -/
  applied_perm : (applied (tr.map Prod.snd)).Perm (attempts.filterMap Finished.applied?)

/-- A run that fails with what failed fails if something did. -/
theorem fails_iff {attempts : List (Finished p values)} {r : Except Error Unit}
    (result : r =
      if failed attempts = [] then .ok () else .error (.provisioning (failed attempts))) :
    (∃ e, r = .error e) ↔ ∃ a ∈ attempts, a.failure.isSome := by
  by_cases none : failed attempts = []
  · rw [if_pos none] at result
    constructor
    · rintro ⟨e, told⟩
      cases result.symm.trans told
    · rintro ⟨a, mem, some⟩
      rw [failed_eq_nil.mp none a mem] at some
      cases some
  · rw [if_neg none] at result
    refine ⟨fun _ => ?_, fun _ => ⟨_, result⟩⟩
    rw [failed_eq_nil] at none
    push Not at none
    obtain ⟨a, mem, some⟩ := none
    exact ⟨a, mem, Option.isSome_iff_ne_none.mpr some⟩

/-- The attempts of tasks that are run at the same time, with what they gave. -/
theorem finished_of_interleaved {tr : List (Nat × Exchange Service)}
    {results : List (Except Error String)}
    (order : Interleaved answer (p.attempts values) s tr results s') :
    ∃ attempts : List (Finished p values), attempts.map Finished.pool = p.cluster.targets ∧
      results = attempts.map Finished.result ∧
      ∀ i a, attempts[i]? = some a → calls (own i tr) = a.calls := by
  have one : ∀ i : Fin p.cluster.targets.length, ∃ a : Finished p values,
      a.pool = p.cluster.targets[i] ∧ results[i.val]? = some a.result ∧
        calls (own i.val tr) = a.calls := by
    intro i
    have task : (p.attempts values)[i.val]? =
        some (p.provisionPool values p.cluster.targets[i]).outcome := by
      simp only [Provisioner.attempts, List.getElem?_map, Fin.getElem_fin,
        List.getElem?_eq_getElem i.isLt, Option.map_some]
    obtain ⟨r, found, run⟩ := order.runs task
    obtain ⟨passed, last, failure, goes, rfl⟩ := provisionPool_goes p values _ run
    exact ⟨⟨_, passed, _, last, failure, goes⟩, rfl, found, rfl⟩
  choose attempt pool found own_calls using one
  refine ⟨List.ofFn attempt, ?_, ?_, ?_⟩
  · rw [List.map_ofFn]
    refine List.ext_getElem (List.length_ofFn ..) fun i _ inside => ?_
    rw [List.getElem_ofFn]
    exact pool ⟨i, inside⟩
  · have length : results.length = p.cluster.targets.length := by
      rw [order.length_eq, Provisioner.attempts, List.length_map]
    rw [List.map_ofFn]
    refine List.ext_getElem (length.trans (List.length_ofFn ..).symm) fun i inside _ => ?_
    rw [List.getElem_ofFn]
    have here := found ⟨i, length ▸ inside⟩
    rw [List.getElem?_eq_getElem inside] at here
    exact Option.some.inj here
  · intro i a found
    obtain ⟨inside, rfl⟩ := List.getElem?_eq_some_iff.mp found
    rw [List.getElem_ofFn]
    exact own_calls ⟨i, _⟩

/-- What tasks that are run at the same time apply is what each of them applied. -/
theorem applied_of_interleaved {tr : List (Nat × Exchange Service)}
    {attempts : List (Finished p values)} (inside : ∀ e ∈ tr, e.1 < attempts.length)
    (own_calls : ∀ i a, attempts[i]? = some a → calls (own i tr) = a.calls) :
    (applied (tr.map Prod.snd)).Perm (attempts.filterMap Finished.applied?) := by
  have places : ∀ e ∈ tr, e.1 ∈ List.range attempts.length :=
    fun e mem => List.mem_range.mpr (inside e mem)
  have each : (List.range attempts.length).flatMap (fun i => applied (own i tr)) =
      attempts.flatMap fun a => a.applied?.toList := by
    refine flatMap_range_eq fun i a found => ?_
    rw [← applied_calls, own_calls i a found, a.applied_calls]
  rw [List.filterMap_eq_flatMap_toList, ← each]
  have perm := (flatMap_own_perm List.nodup_range places).symm.filterMap appliedBy?
  rw [List.filterMap_flatMap] at perm
  exact perm

/-- Every run of provisioning is told by attempts that each went through their own
steps. -/
theorem Provisioner.Provisions.accounted {tr : List (Option Nat × Exchange Service)}
    {r : Except Error Unit} (run : Provisions p values answer s tr r s') :
    ∃ attempts, Accounted p values tr r attempts := by
  cases run with
  | @idle tr r _ none ran _ =>
    obtain ⟨silent, rfl⟩ := Service.runs_log ran
    refine ⟨[], none.symm, fun i a found => ?_, fun e mem call => ?_, fails_iff rfl, rfl, ?_⟩
    · cases found
    · obtain ⟨e, inside, rfl⟩ := List.mem_map.mp mem
      exact absurd call (List.filter_eq_nil_iff.mp silent e inside)
    · rw [map_snd_ofMain, ← applied_calls, silent]
      exact .nil
  | @busy first last tr results r _ _ _ _ opened _ order closed _ =>
    obtain ⟨attempts, pools, rfl, own_calls⟩ := finished_of_interleaved order
    have places : attempts.length = (p.attempts values).length := by
      rw [Provisioner.attempts, List.length_map, ← pools, List.length_map]
    have inside : ∀ e ∈ tr, e.1 < attempts.length := fun e mem => places ▸ order.index_lt mem
    have silent := (Service.runs_log opened).1
    have zipped : p.cluster.targets.zip (attempts.map Finished.result) =
        attempts.map fun a => (a.pool, a.result) := by
      rw [← pools, List.zip_map']
    rw [zipped] at closed
    obtain ⟨quiet, verdict⟩ := runs_conclude closed
    rw [failuresByName_eq pools] at verdict
    refine ⟨attempts, pools, fun i a found => ?_, fun e mem call => ?_, fails_iff verdict, verdict,
      ?_⟩
    · rw [own_append, own_append, own_ofMain, own_ofMain, own_ofAttempts, List.append_nil,
        List.nil_append]
      exact own_calls i a found
    · have of_main {part : List (Exchange Service)} (none : calls part = [])
          (mem : e ∈ ofMain part) : False := by
        obtain ⟨e, inside, rfl⟩ := List.mem_map.mp mem
        exact List.filter_eq_nil_iff.mp none e inside call
      rcases List.mem_append.mp mem with mem | mem
      · rcases List.mem_append.mp mem with mem | mem
        · exact (of_main silent mem).elim
        · obtain ⟨e, asked, rfl⟩ := List.mem_map.mp mem
          exact ⟨e.1, inside e asked, rfl⟩
      · exact (of_main quiet mem).elim
    · rw [List.map_append, List.map_append, map_snd_ofMain, map_snd_ofMain, map_snd_ofAttempts,
        applied_append, applied_append, ← applied_calls first, ← applied_calls last, silent, quiet,
        applied_nil, List.nil_append, List.append_nil]
      exact applied_of_interleaved inside own_calls

/-- Every call is one of the calls of an attempt. -/
theorem Accounted.exists_attempt {tr : List (Option Nat × Exchange Service)} {r : Except Error Unit}
    {attempts : List (Finished p values)} (account : Accounted p values tr r attempts)
    {e : Exchange Service} (mem : e ∈ calls (tr.map Prod.snd)) : ∃ a ∈ attempts, e ∈ a.calls := by
  obtain ⟨asked, call⟩ := List.mem_filter.mp mem
  obtain ⟨⟨whose, e⟩, there, rfl⟩ := List.mem_map.mp asked
  obtain ⟨i, inside, rfl⟩ := account.no_others _ there call
  refine ⟨attempts[i], List.getElem_mem inside, ?_⟩
  rw [← account.own_calls i _ (List.getElem?_eq_getElem inside)]
  exact List.mem_filter.mpr ⟨mem_own.mpr there, call⟩

theorem uncut_conclude (p : Provisioner) (attempts : List (NodePool × Except Error String)) :
    Uncut (p.conclude attempts).outcome := by
  unfold Provisioner.conclude
  split
  · exact Service.uncut_log ..
  · refine Action.uncut_bind (Action.uncut_forM fun e _ => Service.uncut_log ..) fun _ => ?_
    exact .done _

/-- Provisioning is never cut off. -/
theorem uncut_provision (p : Provisioner) (values : Values) :
    Uncut (p.provision values).outcome := by
  unfold Provisioner.provision
  dsimp only
  split
  · exact Service.uncut_log ..
  · refine Action.uncut_bind (Service.uncut_log ..) fun _ => ?_
    refine Action.uncut_bind (Action.uncut_lift ?_) fun attempts => uncut_conclude p attempts
    exact uncut_attemptAll (uncut_provisionPool p values) _

/-- What answers in a world in which all goes well, except that one stack is refused. -/
def refusing (stack : String) : (op : Service.Op) → Service.Answer op
  | .inl (.apply name ..) =>
    if name = stack then Except.error (.config (.described "refused")) else Except.ok ()
  | .inl (.ensureBucket _) | .inl (.put ..) | .inl (.delete _) => Except.ok ()
  | .inl (.wait ..) => Except.ok "CREATE_COMPLETE"
  | .inl (.list _) => Except.ok []
  | .inr (.instanceInfo _) => Except.ok none
  | .inr (.convert _) => Except.ok [1, 2, 3]
  | .inr (.scale ..) => Except.ok ()
  | .inr (.log _) => ()

/-- A cluster with a pool of its own stack and two pools of workers. -/
def twoWorkers : Provisioner where
  cluster :=
    ⟨"kube", "eu-central-1",
      [⟨"masters", "master-default", "m5.large", .none, 1, 1⟩,
        ⟨"bidding", "worker", "m5.large", .none, 0, 9⟩,
        ⟨"plain", "worker", "m5.large", .none, 0, 9⟩], by decide⟩
  profiles := {
    files := (FileTree.empty.addFile (.ofString "profiles/worker/userdata.clc.yaml")
      (Text.Utf8.encode "pool: \x7b\x7b NodePool.name \x7d\x7d")).addFile
      (.ofString "profiles/worker/stack.yaml") (Text.Utf8.encode "size: 3")
    folder := .ofString "profiles"
    bucket := "bucket"
    scheme := "s3"
    version := "2.1.0" }
  waitTimeout := .whole 600
  waitInterval := .whole 10

/-- The names of the pools that failed, if a run came to an end. -/
def namesOfFailures : Option (Except Error Unit) → List String
  | some (.error (.provisioning failures)) => failures.map Prod.fst
  | _ => []

end NodePools
