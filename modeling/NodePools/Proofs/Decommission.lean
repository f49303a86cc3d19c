import NodePools.Proofs.Live
import NodePools.Proofs.Provisioning
import NodePools.Proofs.TagCodec

/-!
# Reconciling

A pass of reconciling lists the live stacks of the cluster, and then drains and
deletes those of pools that are no longer desired, stack after stack.
`Decommissions` is the rule of this for a list of stacks: after each stack goes the
next one, and nothing comes after a call that failed.  `runs_reconcile` says that
every pass follows it.

A drain cannot be taken back, and neither can the deletion of a stack.  What makes
a pass safe is that it only touches stacks that are left over, and that each
deletion comes right after the drain of the same stack (`delete_after_drain`).
-/

namespace NodePools

open Prog (Runs Uncut)

/-- The drain of a stack's pool, with its answer. -/
def drained (s : Stack) (answer : Except Error Unit) : Exchange Service :=
  .site (.scale (Tags.decode s.tags) 0) answer

/-- The deletion of a stack, with its answer. -/
def deleted (s : Stack) (answer : Except Error Unit) : Exchange Service :=
  .cloud (.delete s.name) answer

/-- The live stacks that carry both tags of the cluster but name none of its pools. -/
def leftover (c : Cluster) (live : List Stack) : List Stack :=
  live.filter fun s =>
    s.tags.get? (Tags.clusterKey c.id) = some "owned" ∧ s.tags.get? Tags.roleKey = some "true" ∧
      (Tags.decode s.tags).name ∉ c.poolNames

/-- What is asked to take down stacks, if nothing fails. -/
def plan (doomed : List Stack) : List Service.Op :=
  doomed.flatMap fun s => [.inr (.scale (Tags.decode s.tags) 0), .inl (.delete s.name)]

/-- The calls that take down stacks, if nothing fails. -/
def takenDown (doomed : List Stack) : List (Exchange Service) :=
  doomed.flatMap fun s => [drained s (.ok ()), deleted s (.ok ())]

/-- How stacks are taken down one after the other: the calls with their answers, and
how it ends. -/
inductive Decommissions : List Stack → List (Exchange Service) → Except Error Unit → Prop
  | done : Decommissions [] [] (.ok ())
  | notDrained (s : Stack) (rest : List Stack) (e : Error) :
    Decommissions (s :: rest) [drained s (.error e)]
      (.error (Provisioner.drainError (Tags.decode s.tags).name e))
  | notDeleted (s : Stack) (rest : List Stack) (e : Error) :
    Decommissions (s :: rest) [drained s (.ok ()), deleted s (.error e)] (.error e)
  | gone (s : Stack) {rest : List Stack} {acts : List (Exchange Service)} {r : Except Error Unit} :
    Decommissions rest acts r →
      Decommissions (s :: rest) (drained s (.ok ()) :: deleted s (.ok ()) :: acts) r

namespace Decommissions

variable {doomed : List Stack} {acts : List (Exchange Service)} {r : Except Error Unit}

/-- What is asked is the beginning of the plan. -/
theorem asks (h : Decommissions doomed acts r) : acts.map Exchange.op <+: plan doomed := by
  induction h with
  | done => exact List.prefix_rfl
  | notDrained s rest e => exact ⟨_, rfl⟩
  | notDeleted s rest e => exact ⟨_, rfl⟩
  | gone s _ ih => exact (List.prefix_append_right_inj [_, _]).mpr ih

/-- Either all stacks are taken down, or all in front of one of which the drain or the
deletion is the last call, and fails. -/
theorem ends (h : Decommissions doomed acts r) :
    (acts = takenDown doomed ∧ r = .ok ()) ∨
      (∃ before s after e, doomed = before ++ s :: after ∧
        acts = takenDown before ++ [drained s (.error e)] ∧
        r = .error (Provisioner.drainError (Tags.decode s.tags).name e)) ∨
      ∃ before s after e, doomed = before ++ s :: after ∧
        acts = takenDown before ++ [drained s (.ok ()), deleted s (.error e)] ∧ r = .error e := by
  induction h with
  | done => exact .inl ⟨rfl, rfl⟩
  | notDrained s rest e => exact .inr (.inl ⟨[], s, rest, e, rfl, rfl, rfl⟩)
  | notDeleted s rest e => exact .inr (.inr ⟨[], s, rest, e, rfl, rfl, rfl⟩)
  | gone first _ ih =>
    rcases ih with ⟨rfl, rfl⟩ | ⟨before, s, after, e, rfl, rfl, rfl⟩ |
      ⟨before, s, after, e, rfl, rfl, rfl⟩
    · exact .inl ⟨rfl, rfl⟩
    · exact .inr (.inl ⟨first :: before, s, after, e, rfl, rfl, rfl⟩)
    · exact .inr (.inr ⟨first :: before, s, after, e, rfl, rfl, rfl⟩)

/-- Every call is the drain or the deletion of one of the stacks. -/
theorem of_mem (h : Decommissions doomed acts r) {e : Exchange Service} (mem : e ∈ acts) :
    ∃ s ∈ doomed, ∃ answer, e = drained s answer ∨ e = deleted s answer := by
  induction h with
  | done => cases mem
  | notDrained s rest cause =>
    rw [List.mem_singleton] at mem
    exact ⟨s, List.mem_cons_self, _, .inl mem⟩
  | notDeleted s rest cause =>
    rcases List.mem_cons.mp mem with rfl | mem
    · exact ⟨s, List.mem_cons_self, _, .inl rfl⟩
    · rw [List.mem_singleton] at mem
      exact ⟨s, List.mem_cons_self, _, .inr mem⟩
  | gone s _ ih =>
    rcases List.mem_cons.mp mem with rfl | mem
    · exact ⟨s, List.mem_cons_self, _, .inl rfl⟩
    rcases List.mem_cons.mp mem with rfl | mem
    · exact ⟨s, List.mem_cons_self, _, .inr rfl⟩
    · obtain ⟨s', inside, which⟩ := ih mem
      exact ⟨s', List.mem_cons_of_mem _ inside, which⟩

/-- Each deletion comes right after the drain of the same stack's pool to nothing. -/
theorem delete_after_drain (h : Decommissions doomed acts r) {name : String}
    {answer : Except Error Unit} {before after : List (Exchange Service)}
    (split : acts = before ++ .cloud (.delete name) answer :: after) :
    ∃ s ∈ doomed, s.name = name ∧ ∃ earlier, before = earlier ++ [drained s (.ok ())] := by
  induction h generalizing before with
  | done => exact absurd split (by simp)
  | notDrained s rest e =>
    cases before with
    | nil => cases split
    | cons _ before => exact absurd split (by simp)
  | notDeleted s rest e =>
    rcases before with _ | ⟨first, _ | ⟨second, before⟩⟩
    · cases split
    · cases split
      exact ⟨s, List.mem_cons_self, rfl, [], rfl⟩
    · exact absurd split (by simp)
  | gone s _ ih =>
    rcases before with _ | ⟨first, _ | ⟨second, before⟩⟩
    · cases split
    · cases split
      exact ⟨s, List.mem_cons_self, rfl, [], rfl⟩
    · simp only [List.cons_append, List.cons.injEq] at split
      obtain ⟨rfl, rfl, later⟩ := split
      obtain ⟨s', inside, named, earlier, rfl⟩ := ih later
      exact ⟨s', List.mem_cons_of_mem _ inside, named, _ :: _ :: earlier, rfl⟩

end Decommissions

/-! ## What a pass of reconciling does -/

variable {p : Provisioner} {tr : List (Exchange Service)}

theorem runs_decommission {s : Stack} {r : Except Error Unit}
    (run : Runs (p.decommission s).outcome tr r) :
    (∃ e, calls tr = [drained s (.error e)] ∧
      r = .error (Provisioner.drainError (Tags.decode s.tags).name e)) ∨
    ∃ answer, calls tr = [drained s (.ok ()), deleted s answer] ∧ r = answer := by
  obtain ⟨rest, same, taken⟩ := Service.runs_log_bind run
  rw [same]
  rcases Action.runs_bind.mp taken with ⟨e, rfl, drain⟩ | ⟨tr₃, ⟨⟩, tr₄, rfl, drain, later⟩
  · obtain ⟨answer, asked, told⟩ := Action.runs_mapError.mp drain
    obtain rfl := Prog.runs_request.mp asked
    cases answer with
    | error cause =>
      cases told
      exact .inl ⟨cause, rfl, rfl⟩
    | ok _ => cases told
  · obtain ⟨answer, asked, told⟩ := Action.runs_mapError.mp drain
    obtain rfl := Prog.runs_request.mp asked
    cases answer with
    | error cause => cases told
    | ok _ =>
      obtain ⟨last, same, delete⟩ := Service.runs_log_bind later
      obtain rfl := Prog.runs_request.mp delete
      rw [calls_append, same]
      exact .inr ⟨r, rfl, rfl⟩

/-- Stacks are taken down by the rule. -/
theorem runs_decommission_all {doomed : List Stack} {r : Except Error PUnit}
    (run : Runs (doomed.forM p.decommission).outcome tr r) :
    Decommissions doomed (calls tr) r := by
  induction doomed generalizing tr r with
  | nil =>
    obtain ⟨rfl, rfl⟩ := Action.runs_pure.mp run
    exact .done
  | cons s rest ih =>
    rcases Action.runs_bind.mp run with ⟨e, rfl, first⟩ | ⟨tr₁, ⟨⟩, tr₂, rfl, first, later⟩
    · rcases runs_decommission first with ⟨cause, asked, told⟩ | ⟨answer, asked, rfl⟩
      · cases told
        rw [asked]
        exact .notDrained s rest cause
      · rw [asked]
        exact .notDeleted s rest e
    · rcases runs_decommission first with ⟨cause, asked, told⟩ | ⟨answer, asked, rfl⟩
      · cases told
      · rw [calls_append, asked]
        exact .gone s (ih later)

/-- A pass of reconciling lists the stacks of the cluster, and takes down by the rule
those of them that name no pool of it. -/
theorem runs_reconcile {r : Except Error Unit} (run : Runs p.reconcile.outcome tr r) :
    (∃ e, tr = [.cloud (.list (Tags.owner p.cluster.id)) (.error e)] ∧ r = .error e) ∨
    ∃ live rest, tr = .cloud (.list (Tags.owner p.cluster.id)) (.ok live) :: rest ∧
      Decommissions (orphans live p.cluster.pools) (calls rest) r := by
  rcases Action.runs_bind.mp run with ⟨e, rfl, listed⟩ | ⟨tr₁, live, tr₂, rfl, listed, taken⟩
  · obtain rfl := Prog.runs_request.mp listed
    exact .inl ⟨e, rfl, rfl⟩
  obtain rfl := Prog.runs_request.mp listed
  refine .inr ⟨live, tr₂, rfl, ?_⟩
  dsimp only at taken
  split at taken
  · obtain ⟨rest, same, later⟩ := Service.runs_log_bind taken
    rw [same]
    exact runs_decommission_all later
  · exact runs_decommission_all taken

/-- Of the stacks that carry both tags of the cluster, the orphans are those left over. -/
theorem orphans_eq_leftover (c : Cluster) (live : List Stack) :
    orphans (live.filter fun s => Tags.holdAll s.tags (Tags.owner c.id)) c.pools =
      leftover c live := by
  rw [orphans, List.filter_filter, leftover]
  refine List.filter_congr fun s _ => ?_
  rw [Bool.eq_iff_iff, decide_eq_true_iff, Bool.and_eq_true, Tags.holdAll_owner, Bool.not_eq_true',
    List.contains_eq_mem, decide_eq_false_iff_not, and_comm, and_assoc]
  rfl

/-- Reconciling is never cut off. -/
theorem uncut_reconcile (p : Provisioner) : Uncut p.reconcile.outcome := by
  have one (s : Stack) : Uncut (p.decommission s).outcome := by
    refine Action.uncut_bind (Service.uncut_log ..) fun _ => ?_
    refine Action.uncut_bind (Action.uncut_mapError (.request _)) fun _ => ?_
    exact Action.uncut_bind (Service.uncut_log ..) fun _ => .request _
  refine Action.uncut_bind (.request _) fun live => ?_
  have all : Uncut ((orphans live p.cluster.pools).forM p.decommission).outcome :=
    Action.uncut_forM fun s _ => one s
  dsimp only
  split
  · exact Action.uncut_bind (Service.uncut_log ..) fun _ => all
  · exact all

/-- What a pass does to the stacks left over from others: the calls, with their
answers, that come after the listing, and how the pass ends. -/
structure Pass (c : Cluster) (live : List Stack) (acts : List (Exchange Service))
    (r : Except Error Unit) : Prop where
  /-- All are taken down in the order of the listing, or all up to the first failing call. -/
  ends : (acts = takenDown (leftover c live) ∧ r = .ok ()) ∨
    (∃ before s after e, leftover c live = before ++ s :: after ∧
      acts = takenDown before ++ [drained s (.error e)] ∧
      r = .error (Provisioner.drainError (Tags.decode s.tags).name e)) ∨
    ∃ before s after e, leftover c live = before ++ s :: after ∧
      acts = takenDown before ++ [drained s (.ok ()), deleted s (.error e)] ∧ r = .error e
  /-- What is asked is the beginning of what is asked if nothing fails. -/
  asks : acts.map Exchange.op <+: plan (leftover c live)
  /-- Only stacks left over are touched. -/
  touches : ∀ e ∈ acts, ∃ s ∈ leftover c live, ∃ answer,
    e = drained s answer ∨ e = deleted s answer
  /-- A deletion comes right after the drain of the same stack's pool to nothing. -/
  delete_after : ∀ before name answer after,
    acts = before ++ .cloud (.delete name) answer :: after →
    ∃ s ∈ leftover c live, s.name = name ∧ ∃ earlier, before = earlier ++ [drained s (.ok ())]

/-- If the live stacks with the tags of the cluster are listed, a pass of reconciling
lists them, takes down those left over one after the other up to the first failing
call, and calls nobody else. -/
theorem reconcile_takes_down_leftover {σ : Type} (p : Provisioner) (answer : Handler Service σ)
    (s : σ) (live : List Stack)
    (lists : (answer (.inl (.list (Tags.owner p.cluster.id))) s).1 =
      Except.ok (live.filter fun t => Tags.holdAll t.tags (Tags.owner p.cluster.id))) :
    ∃ tr acts r s', p.reconcile.outcome.run answer s = (some r, s') ∧
      Runs p.reconcile.outcome tr r ∧ answer.Plays s tr s' ∧
      calls tr = .cloud (.list (Tags.owner p.cluster.id))
        (.ok (live.filter fun t => Tags.holdAll t.tags (Tags.owner p.cluster.id))) :: acts ∧
      Pass p.cluster live acts r := by
  obtain ⟨r, s', run⟩ := (uncut_reconcile p).run answer s
  obtain ⟨tr, runs, plays⟩ := Prog.run_eq_some_iff.mp run
  rcases runs_reconcile runs with ⟨e, rfl, rfl⟩ | ⟨listed, rest, rfl, taken⟩
  · have told := (Handler.plays_cons.mp plays).1
    rw [lists] at told
    cases told
  · have told := (Handler.plays_cons.mp plays).1
    rw [lists] at told
    cases told
    rw [orphans_eq_leftover] at taken
    exact ⟨_, calls rest, r, s', run, runs, plays, rfl, taken.ends, taken.asks,
      fun e mem => taken.of_mem mem, fun before name answer after split =>
        taken.delete_after_drain split⟩

/-- A world that keeps live stacks, in which all goes well. -/
def tending : Handler Service (List Stack)
  | .inl (.apply name _ tags), live =>
    (Except.ok (), Rehearsal.World.goLive live ⟨name, tags, "CREATE_COMPLETE"⟩)
  | .inl (.delete name), live => (Except.ok (), live.filter fun s => s.name ≠ name)
  | .inl (.list tags), live => (Except.ok (live.filter fun s => Tags.holdAll s.tags tags), live)
  | op, live => (refusing "" op, live)

theorem keeps_tending : Keeps tending id := by
  intro op s
  rcases op with op | op
  · cases op with
    | apply name document tags => exact ⟨_, rfl⟩
    | list tags => exact ⟨rfl, rfl⟩
    | _ => rfl
  · rfl

/-- The stacks of two pools of which one is no longer desired, and a stack of somebody
else's. -/
def threeLive : List Stack :=
  [⟨"nodepool-old-kube", Tags.encode "kube" (.identified "old" "worker"), "CREATE_COMPLETE"⟩,
    ⟨"nodepool-plain-kube", Tags.encode "kube" (.identified "plain" "worker"), "CREATE_COMPLETE"⟩,
    ⟨"database", [("NodePool", "old")], "CREATE_COMPLETE"⟩]

theorem twoWorkers_takes_down_old : ∃ tr acts r,
    Runs twoWorkers.reconcile.outcome tr r ∧ Pass twoWorkers.cluster threeLive acts r ∧
      (leftover twoWorkers.cluster threeLive).map Stack.name = ["nodepool-old-kube"] := by
  obtain ⟨tr, acts, r, s', -, runs, -, -, pass⟩ :=
    reconcile_takes_down_leftover twoWorkers tending threeLive threeLive rfl
  exact ⟨tr, acts, r, runs, pass, by decide⟩

end NodePools
