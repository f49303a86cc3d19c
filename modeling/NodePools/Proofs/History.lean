import NodePools.Proofs.Decommission

/-!
# The history of a cluster

Provisioning names a stack after the cluster and the pool; reconciling reads the pool
back from the stack's tags.  The two agree as long as every live stack carries the
tags of a pool that was desired at some time, and has the name that goes with
these tags.  `Kept` says so, and `History.kept` that it holds at every moment of
every history: after any number of provisions and reconciliations, complete or
broken off after any of their requests, with any failures, while the desired pools
change.

When both go well one after the other, what is live is what is desired
(`matches_of_runs`).
-/

namespace NodePools

open Attempt Provisioner
open Prog (Runs)

/-- Every live stack is that of a pool that was desired, and no two have one name. -/
structure Kept (id : String) (desired : List Cluster) (live : List Stack) : Prop where
  names : (live.map Stack.name).Nodup
  tagged : ∀ s ∈ live, ∃ c ∈ desired, c.id = id ∧ ∃ pool ∈ c.targets,
    s.tags = Tags.encode id pool ∧ s.name = stackName c (Tags.decode s.tags)

/-- What may have been done for the cluster of an id: the states that it was to be in,
the last one first, and the state in which the world is.  A run may be broken off after any
of its requests. -/
inductive History {σ : Type} (answer : Handler Service σ) (live : σ → List Stack) (id : String) :
    List Cluster → σ → Prop
  | start {c : Cluster} {s : σ} : c.id = id → live s = [] → History answer live id [c] s
  | desire {c : Cluster} {desired : List Cluster} {s : σ} :
    History answer live id desired s → c.id = id → History answer live id (c :: desired) s
  | provision {desired : List Cluster} {s s' mid : σ} {p : Provisioner} {values : Values}
    {tr : List (Option Nat × Exchange Service)} {made : List (Exchange Service)}
    {r : Except Error Unit} :
    History answer live id (p.cluster :: desired) s → Provisions p values answer s tr r s' →
    made <+: tr.map Prod.snd → answer.Plays s made mid →
      History answer live id (p.cluster :: desired) mid
  | reconcile {desired : List Cluster} {s mid : σ} {p : Provisioner}
    {tr made : List (Exchange Service)} {r : Except Error Unit} :
    History answer live id (p.cluster :: desired) s → Runs p.reconcile.outcome tr r →
    made <+: tr → answer.Plays s made mid → History answer live id (p.cluster :: desired) mid

/-! ## What runs apply and delete -/

section

variable {σ : Type} {p : Provisioner} {values : Values} {answer : Handler Service σ} {s s' : σ}

section

variable {tr : List (Option Nat × Exchange Service)} {r : Except Error Unit}

/-- Provisioning applies stacks of target pools only. -/
theorem Provisioner.Provisions.of_mem_applied (run : Provisions p values answer s tr r s')
    {a : Applied} (mem : a ∈ applied (tr.map Prod.snd)) :
    ∃ pool ∈ p.cluster.targets, ∃ document, a = stackOf p pool document := by
  obtain ⟨attempts, account⟩ := run.accounted
  obtain ⟨attempt, inside, came⟩ := List.mem_filterMap.mp (account.applied_perm.mem_iff.mp mem)
  have target : attempt.pool ∈ p.cluster.targets := by
    rw [← account.pools]
    exact List.mem_map_of_mem inside
  exact ⟨attempt.pool, target, _, Finished.of_applied? came⟩

theorem Provisioner.Provisions.applied_for_target (run : Provisions p values answer s tr r s')
    {a : Applied} (mem : a ∈ applied (tr.map Prod.snd)) :
    ∃ pool ∈ p.cluster.targets, a.tags = Tags.encode p.cluster.id pool ∧
      a.name = stackName p.cluster pool := by
  obtain ⟨pool, target, document, rfl⟩ := run.of_mem_applied mem
  exact ⟨pool, target, rfl, rfl⟩

/-- Provisioning that does not fail applies the stacks of all target pools. -/
theorem Provisioner.Provisions.mem_applied (run : Provisions p values answer s tr (.ok ()) s')
    {pool : NodePool} (mem : pool ∈ p.cluster.targets) :
    ∃ document, stackOf p pool document ∈ applied (tr.map Prod.snd) := by
  obtain ⟨attempts, account⟩ := run.accounted
  rw [← account.pools] at mem
  obtain ⟨attempt, inside, rfl⟩ := List.mem_map.mp mem
  have well : attempt.failure = none := by
    by_contra failed
    have fails := account.fails.mpr ⟨attempt, inside, Option.isSome_iff_ne_none.mpr failed⟩
    obtain ⟨e, told⟩ := fails
    cases told
  have passed : attempt.passed = Step.all := by
    rcases attempt.goes.passed_prefix with ⟨-, all⟩ | ⟨e, step, later, failed, -⟩
    · exact all
    · cases well.symm.trans failed
  refine ⟨attempt.last.document, account.applied_perm.mem_iff.mpr ?_⟩
  refine List.mem_filterMap.mpr ⟨attempt, inside, ?_⟩
  rw [Finished.applied?, passed, if_pos (by decide)]

/-- What neither a step nor a log record tells of is not told by provisioning. -/
theorem Provisioner.Provisions.filterMap_eq_nil {γ : Type} {f : Exchange Service → Option γ}
    (run : Provisions p values answer s tr r s')
    (logs : ∀ record answer, f (.site (.log record) answer) = none)
    (silent : ∀ {pool step g cs r}, Takes p values pool step g cs r → cs.filterMap f = []) :
    (tr.map Prod.snd).filterMap f = [] := by
  obtain ⟨attempts, account⟩ := run.accounted
  rw [← filterMap_calls logs]
  refine List.filterMap_eq_nil_iff.mpr fun e mem => ?_
  obtain ⟨attempt, -, of_attempt⟩ := account.exists_attempt mem
  exact List.filterMap_eq_nil_iff.mp (attempt.goes.filterMap_eq_nil silent) e of_attempt

/-- Provisioning deletes nothing. -/
theorem Provisioner.Provisions.deletions_eq_nil (run : Provisions p values answer s tr r s') :
    deletions (tr.map Prod.snd) = [] :=
  run.filterMap_eq_nil (fun _ _ => rfl) Takes.deletions_eq_nil

end

theorem deletions_takenDown (doomed : List Stack) :
    deletions (takenDown doomed) = doomed.map Stack.name := by
  induction doomed with
  | nil => rfl
  | cons s rest ih => exact congrArg (s.name :: ·) ih

/-- Taking down stacks applies nothing. -/
theorem Decommissions.applied_eq_nil {doomed : List Stack} {acts : List (Exchange Service)}
    {r : Except Error Unit} (h : Decommissions doomed acts r) : applied acts = [] := by
  refine List.filterMap_eq_nil_iff.mpr fun e mem => ?_
  obtain ⟨s, -, answer, rfl | rfl⟩ := h.of_mem mem
  · rfl
  · rfl

/-- Reconciling applies nothing. -/
theorem applied_of_reconcile {tr : List (Exchange Service)} {r : Except Error Unit}
    (run : Runs p.reconcile.outcome tr r) : applied tr = [] := by
  rcases runs_reconcile run with ⟨e, rfl, rfl⟩ | ⟨live, rest, rfl, taken⟩
  · rfl
  · exact (applied_calls rest).symm.trans taken.applied_eq_nil

end

/-! ## The invariant -/

section

variable {id : String} {desired : List Cluster} {live after : List Stack}
  {tr : List (Exchange Service)}

theorem Kept.moved (kept : Kept id desired live) (moved : Moved live tr after)
    (applies : ∀ a ∈ applied tr, ∃ c ∈ desired, c.id = id ∧ ∃ pool ∈ c.targets,
      a.tags = Tags.encode id pool ∧ a.name = stackName c pool) : Kept id desired after := by
  refine ⟨moved.names kept.names, fun s mem => ?_⟩
  rcases moved.origin mem with before | ⟨a, told, name, tags⟩
  · exact kept.tagged s before
  · obtain ⟨c, wanted, same, pool, target, encoded, named⟩ := applies a told
    refine ⟨c, wanted, same, pool, target, tags.symm.trans encoded, ?_⟩
    rw [← name, named, ← tags, encoded, Tags.decode_encode, stackName_eq_iff rfl]
    rfl

theorem Kept.desire (kept : Kept id desired live) (c : Cluster) : Kept id (c :: desired) live := by
  refine ⟨kept.names, fun s mem => ?_⟩
  obtain ⟨d, wanted, rest⟩ := kept.tagged s mem
  exact ⟨d, List.mem_cons_of_mem _ wanted, rest⟩

/-- A stack that is live carries the tags of the cluster. -/
theorem Kept.owned (kept : Kept id desired live) {s : Stack} (mem : s ∈ live) :
    Tags.holdAll s.tags (Tags.owner id) = true := by
  obtain ⟨c, -, -, pool, -, tags, -⟩ := kept.tagged s mem
  rw [tags]
  exact Tags.holdAll_owner_encode id pool

end

section

variable {σ : Type} {answer : Handler Service σ} {live : σ → List Stack} {id : String}
  {desired : List Cluster} {s : σ}

theorem History.id_eq (h : History answer live id desired s) {c : Cluster} (mem : c ∈ desired) :
    c.id = id := by
  induction h with
  | start same _ =>
    rw [List.mem_singleton] at mem
    rw [mem, same]
  | desire _ same ih =>
    rcases List.mem_cons.mp mem with rfl | mem
    · exact same
    · exact ih mem
  | provision _ _ _ _ ih | reconcile _ _ _ _ ih => exact ih mem

/-- At every moment of every history the live stacks are kept. -/
theorem History.kept (keeps : Keeps answer live) (h : History answer live id desired s) :
    Kept id desired (live s) := by
  induction h with
  | start _ none =>
    rw [none]
    exact ⟨List.nodup_nil, fun s mem => nomatch mem⟩
  | desire _ _ ih => exact ih.desire _
  | @provision desired s s' mid p values tr made r before run begins plays ih =>
    refine ih.moved (keeps.moved plays) fun a told => ?_
    have whole : a ∈ applied (tr.map Prod.snd) := (begins.filterMap appliedBy?).subset told
    have same := before.id_eq List.mem_cons_self
    exact ⟨p.cluster, List.mem_cons_self, same, same ▸ run.applied_for_target whole⟩
  | @reconcile desired s mid p tr made r before run begins plays ih =>
    refine ih.moved (keeps.moved plays) fun a told => ?_
    have whole : a ∈ applied tr := (begins.filterMap appliedBy?).subset told
    rw [applied_of_reconcile run] at whole
    cases whole

end

/-! ## When all goes well -/

/-- What is live is what is desired: one stack for each target pool, with the tags of the
pool as it is desired, and at most stacks that name a pool of the cluster's own stack. -/
structure Matches (c : Cluster) (live : List Stack) : Prop where
  targets : ∀ pool ∈ c.targets, ∃ s ∈ live, s.name = stackName c pool ∧
    s.tags = Tags.encode c.id pool ∧
    ∀ other ∈ live, (Tags.decode other.tags).name = pool.name → other = s
  others : ∀ s ∈ live, (∃ pool ∈ c.targets, (Tags.decode s.tags).name = pool.name) ∨
    ∃ pool ∈ c.pools, pool.isLegacy ∧ (Tags.decode s.tags).name = pool.name

section

variable {σ : Type} {answer : Handler Service σ} {live : σ → List Stack} {desired : List Cluster}
  {p q : Provisioner} {values : Values} {s s₁ s₂ : σ}

/-- A live stack has the name of an orphan only if it is one. -/
theorem name_mem_orphans {live : List Stack} (names : (live.map Stack.name).Nodup)
    {c : Cluster} {s : Stack} (mem : s ∈ live) :
    s.name ∈ (orphans live c.pools).map Stack.name ↔
      (Tags.decode s.tags).name ∉ c.poolNames := by
  rw [List.mem_map]
  constructor
  · rintro ⟨other, orphan, name⟩
    obtain ⟨inside, undesired⟩ := List.mem_filter.mp orphan
    obtain rfl := List.inj_on_of_nodup_map names inside mem name
    simpa only [Bool.not_eq_true', List.contains_eq_mem, decide_eq_false_iff_not, Cluster.poolNames]
      using undesired
  · intro undesired
    refine ⟨s, List.mem_filter.mpr ⟨mem, ?_⟩, rfl⟩
    simpa only [Bool.not_eq_true', List.contains_eq_mem, decide_eq_false_iff_not, Cluster.poolNames]
      using undesired

/-- A pass of reconciling that does not fail leaves the stacks that name a desired pool. -/
theorem live_of_reconcile (keeps : Keeps answer live)
    (kept : Kept q.cluster.id desired (live s₁))
    (run : q.reconcile.outcome.run answer s₁ = (some (.ok ()), s₂)) :
    live s₂ = (live s₁).filter fun s => (Tags.decode s.tags).name ∈ q.cluster.poolNames := by
  obtain ⟨tr, runs, plays⟩ := Prog.run_eq_some_iff.mp run
  have moved := (keeps.moved plays).deletes (applied_of_reconcile runs)
  rcases runs_reconcile runs with ⟨e, rfl, told⟩ | ⟨listed, rest, rfl, taken⟩
  · cases told
  have all : listed = live s₁ := by
    have told := keeps (.inl (.list (Tags.owner q.cluster.id))) s₁
    rw [← (Handler.plays_cons.mp plays).1] at told
    have held := told.1
    rw [List.filter_eq_self.mpr fun s mem => kept.owned mem] at held
    exact held
  rw [all] at taken
  have whole : calls rest = takenDown (orphans (live s₁) q.cluster.pools) := by
    rcases taken.ends with ⟨whole, -⟩ | ⟨_, _, _, _, -, -, failed⟩ | ⟨_, _, _, _, -, -, failed⟩
    · exact whole
    · cases failed
    · cases failed
  have gone : deletions (.cloud (.list (Tags.owner q.cluster.id)) (.ok listed) :: rest) =
      (orphans (live s₁) q.cluster.pools).map Stack.name := by
    rw [← deletions_takenDown, ← whole, deletions_calls]
    rfl
  rw [moved, gone]
  refine List.filter_congr fun s mem => ?_
  rw [decide_eq_decide, name_mem_orphans kept.names mem, not_not]

/-- Provisioning that does not fail leaves a stack for each target pool, with its tags. -/
theorem exists_live_of_provision (keeps : Keeps answer live)
    {tr : List (Option Nat × Exchange Service)} (made : Provisions p values answer s tr (.ok ()) s₁)
    {pool : NodePool} (target : pool ∈ p.cluster.targets) :
    ∃ x ∈ live s₁, x.name = stackName p.cluster pool ∧ x.tags = Tags.encode p.cluster.id pool := by
  have moved := keeps.moved made.plays
  have nothing := made.deletions_eq_nil
  obtain ⟨document, told⟩ := made.mem_applied target
  obtain ⟨x, inside, name⟩ := moved.covers nothing told
  rcases moved.newest nothing inside with ⟨-, others⟩ | ⟨a, other, named, tagged⟩
  · exact absurd name.symm (others _ told)
  · obtain ⟨pool', target', document', rfl⟩ := made.of_mem_applied other
    have names := (stackName_eq_iff rfl).mp (named.trans name)
    have one : pool' = pool := List.inj_on_of_nodup_map p.cluster.distinct
      (List.mem_filter.mp target').1 (List.mem_filter.mp target).1 names
    exact ⟨x, inside, name, one ▸ tagged.symm⟩

/-- After provisioning and then reconciling without a failure, the live stacks are one for
each target pool, and stacks that name a pool of the cluster's own stack. -/
theorem matches_of_runs (keeps : Keeps answer live) (same : q.cluster = p.cluster)
    (kept : Kept p.cluster.id desired (live s))
    {tr : List (Option Nat × Exchange Service)} (made : Provisions p values answer s tr (.ok ()) s₁)
    (run : q.reconcile.outcome.run answer s₁ = (some (.ok ()), s₂)) :
    Matches p.cluster (live s₂) := by
  have between : Kept p.cluster.id (p.cluster :: desired) (live s₁) :=
    (kept.desire p.cluster).moved (keeps.moved made.plays) fun a told =>
      ⟨p.cluster, List.mem_cons_self, rfl, made.applied_for_target told⟩
  have left := live_of_reconcile keeps (same ▸ between) run
  rw [same] at left
  constructor
  · intro pool target
    obtain ⟨x, inside, name, tags⟩ := exists_live_of_provision keeps made target
    have wanted : pool.name ∈ p.cluster.poolNames :=
      List.mem_map_of_mem (List.mem_filter.mp target).1
    refine ⟨x, ?_, name, tags, fun other mem decoded => ?_⟩
    · rw [left, List.mem_filter, tags, Tags.decode_encode, decide_eq_true_iff]
      exact ⟨inside, wanted⟩
    · rw [left] at mem
      have before := (List.mem_filter.mp mem).1
      obtain ⟨c, -, id, -, -, -, named⟩ := between.tagged other before
      refine List.inj_on_of_nodup_map between.names before inside ?_
      rw [named, name, stackName_eq_iff id]
      exact decoded
  · intro x mem
    rw [left, List.mem_filter, decide_eq_true_iff] at mem
    obtain ⟨pool, inside, name⟩ := List.mem_map.mp mem.2
    by_cases legacy : pool.isLegacy
    · exact .inr ⟨pool, inside, legacy, name.symm⟩
    · exact .inl ⟨pool, List.mem_filter.mpr ⟨inside, by simpa using legacy⟩, name.symm⟩

end

/-- In every history of a cluster's id, whatever fails and wherever a run is broken off, every
live stack has the tags of a pool that was desired once, and the name that goes with its
tags; and whenever provisioning and then reconciling for the same cluster go well, what is
live afterwards is what is desired. -/
theorem history_keeps_stacks {σ : Type} {answer : Handler Service σ} {live : σ → List Stack}
    {id : String} {desired : List Cluster} {s : σ} (keeps : Keeps answer live)
    (history : History answer live id desired s) :
    Kept id desired (live s) ∧
    ∀ (p q : Provisioner) values tr s₁ s₂, p.cluster.id = id → q.cluster = p.cluster →
      Provisions p values answer s tr (.ok ()) s₁ →
      q.reconcile.outcome.run answer s₁ = (some (.ok ()), s₂) →
      Matches p.cluster (live s₂) := by
  refine ⟨history.kept keeps, fun p q values tr s₁ s₂ named same made run => ?_⟩
  subst named
  exact matches_of_runs keeps same (history.kept keeps) made run

/-- Whether a run came to an end without an error. -/
def wentWell : Option (Except Error Unit) → Bool
  | some (.ok _) => true
  | _ => false

theorem run_of_wentWell {S : Signature} {σ : Type} (x : Prog S (Except Error Unit))
    (answer : Handler S σ) (s : σ) (well : wentWell (x.run answer s).1) :
    x.run answer s = (some (.ok ()), (x.run answer s).2) := by
  rcases told : x.run answer s with ⟨_ | _ | ⟨⟨⟩⟩, s'⟩
  · rw [told] at well
    cases well
  · rw [told] at well
    cases well
  · rfl

set_option maxRecDepth 100000 in
theorem twoWorkers_matches : ∃ live after,
    History tending id "kube" [twoWorkers.cluster] live ∧ Kept "kube" [twoWorkers.cluster] live ∧
      twoWorkers.reconcile.outcome.run tending live = (some (.ok ()), after) ∧
      Matches twoWorkers.cluster after := by
  have none : History tending id "kube" [twoWorkers.cluster] ([] : List Stack) := .start rfl rfl
  have provisioned := run_of_wentWell (twoWorkers.provision []).outcome tending []
    (by decide +kernel)
  obtain ⟨tr, made⟩ := provisions_of_run provisioned
  have reconciled := run_of_wentWell twoWorkers.reconcile.outcome tending
    ((twoWorkers.provision []).outcome.run tending []).2 (by decide +kernel)
  have next := History.provision none made List.prefix_rfl made.plays
  exact ⟨_, _, next, (history_keeps_stacks keeps_tending next).1, reconciled,
    (history_keeps_stacks keeps_tending none).2 _ _ _ _ _ _ rfl rfl made reconciled⟩

end NodePools
