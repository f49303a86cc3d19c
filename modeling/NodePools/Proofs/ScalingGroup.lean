import NodePools.Aws.Scaler
import NodePools.Proofs.Convergence

/-!
# When a scaling group is empty

To scale a pool to nothing is to find the scaling group of its stack, to resize the group, to
read the clock, and then to look at the group until it shows no machines.  Each look follows on
a reading of the clock, and the deadline is the timeout after the reading that follows on the
resizing.  `Emptying` has what is asked in the course of this; `Emptied` holds of what was asked
if it has come to its end in time.

A pool is scaled to nothing without an error only in this way (`Scaler.emptied_of_scale`),
and on the way nothing is deleted (`Scaler.silent_scale`).  It comes to an end unless the
group is still busy after as many looks as may be, all of them before the deadline
(`Scaler.stillBusy_of_cuts_scale`).
-/

namespace NodePools.Aws

open Prog (Cuts Runs Uncut)
open Stacks (table_of_field list_of_firstItem)

variable {τ : Type}

/-! ## What is asked to scale a pool -/

/-- The call that asks for the scaling group of a stack. -/
def resolving (stack : String) (answer : Except Error Datum) : Exchange (Client τ) :=
  ⟨.call "cloudformation" "describe_stack_resources"
    [("StackName", .text stack), ("LogicalResourceId", .text "AutoScalingGroup")], answer⟩

/-- The call that resizes a group to nothing. -/
def resizing (group : Datum) (answer : Except Error Datum) : Exchange (Client τ) :=
  ⟨.call "autoscaling" "update_auto_scaling_group"
    [("AutoScalingGroupName", group), ("MinSize", .whole 0), ("DesiredCapacity", .whole 0)],
    answer⟩

/-- A look at a group. -/
def counting (group : Datum) (answer : Except Error Datum) : Exchange (Client τ) :=
  ⟨.call "autoscaling" "describe_auto_scaling_groups" [("AutoScalingGroupNames", .list [group])],
    answer⟩

/-- A reading of the clock. -/
def reading (time : τ) : Exchange (Client τ) := ⟨.now, time⟩

/-- A pause between two looks. -/
def pausing (pause : τ) : Exchange (Client τ) := ⟨.sleep pause, ()⟩

/-- Looks at a group, told by the times at which they begin and by what they see.  Each has the
reading of its time before it and a pause behind it. -/
def looking (group : Datum) (pause : τ) (looks : List (τ × Datum)) : List (Exchange (Client τ)) :=
  looks.flatMap fun look => [reading look.1, counting group (.ok look.2), pausing pause]

/-- The first of the things that an answer lists under a key has a value under a name. -/
def TellsOfFirst (answer : Datum) (key name : String) (value : Datum) : Prop :=
  ∃ fields first others, answer = .table fields ∧
    Fields.get? key fields = some (.list (.table first :: others)) ∧
    Fields.get? name first = some value

/-- An answer names the scaling group. -/
def NamesGroup (answer group : Datum) : Prop :=
  TellsOfFirst answer "StackResources" "PhysicalResourceId" group

/-- An answer shows a group with so many machines. -/
def ShowsMachines (answer : Datum) (number : Nat) : Prop :=
  ∃ instances, TellsOfFirst answer "AutoScalingGroups" "Instances" instances ∧
    instances.size = .ok number

/-- An answer shows a group without machines. -/
def ShowsNone (answer : Datum) : Prop :=
  ∃ instances, TellsOfFirst answer "AutoScalingGroups" "Instances" instances ∧
    instances.size = .ok 0

/-- A scaling group on its way to nothing: the answer that names it, the answer to its resizing,
the time that is read next, the pause between two looks, and the looks that were taken. -/
structure Emptying (τ : Type) where
  resources : Datum
  group : Datum
  resized : Datum
  start : τ
  pause : τ
  looks : List (τ × Datum)

/-- All that was asked about the group of a stack so far. -/
def Emptying.asked (g : Emptying τ) (stack : String) : List (Exchange (Client τ)) :=
  [resolving stack (.ok g.resources), resizing g.group (.ok g.resized), reading g.start] ++
    looking g.group g.pause g.looks

/-- The group is the one that is named; the deadline is the timeout after the time that was read
when the group had been resized; and every look began before the deadline and saw machines. -/
structure Emptying.Busy [Seconds τ] (g : Emptying τ) (timeout : Number) (deadline : τ) : Prop where
  named : NamesGroup g.resources g.group
  timed : ∃ limit, (Seconds.ofNumber timeout : Except Fault τ) = .ok limit ∧
    deadline = g.start + limit
  looked : ∀ look ∈ g.looks, look.1 < deadline ∧ ¬ShowsNone look.2

/-- In the course of what was asked the scaling group of a stack was emptied: without anything
asked in between it was found, was resized to nothing, and was looked at until a look that began
before the deadline saw no machines. -/
def Emptied [Seconds τ] (timeout : Number) (stack : String) (tr : List (Exchange (Client τ))) :
    Prop :=
  ∃ (g : Emptying τ) (deadline time : τ) (shown : Datum), g.Busy timeout deadline ∧
    g.asked stack ++ [reading time, counting g.group (.ok shown)] <:+: tr ∧
    time < deadline ∧ ShowsNone shown

/-- What was asked ends with the scaling group of a stack on its way to nothing: it was found,
was resized, and was looked at a number of times, always before the deadline, and each look saw
machines. -/
def StillBusy [Seconds τ] (timeout : Number) (stack : String) (times : Nat)
    (tr : List (Exchange (Client τ))) : Prop :=
  ∃ (g : Emptying τ) (deadline : τ), g.Busy timeout deadline ∧ g.asked stack <:+ tr ∧
    g.looks.length = times

theorem StillBusy.mono [Seconds τ] {timeout : Number} {stack : String} {times : Nat}
    {tr more : List (Exchange (Client τ))} (busy : StillBusy timeout stack times tr)
    (ends : tr <:+ more) : StillBusy timeout stack times more := by
  obtain ⟨g, deadline, busy, asked, length⟩ := busy
  exact ⟨g, deadline, busy, asked.trans ends, length⟩

/-- A group that was emptied in the course of some calls was emptied in the course of more. -/
theorem Emptied.mono [Seconds τ] {timeout : Number} {stack : String}
    {tr more : List (Exchange (Client τ))} (emptied : Emptied timeout stack tr)
    (within : tr <:+: more) : Emptied timeout stack more := by
  obtain ⟨g, deadline, time, shown, busy, asked, told⟩ := emptied
  exact ⟨g, deadline, time, shown, busy, asked.trans within, told⟩

namespace Scaler

theorem tellsOfFirst_of_firstOf {answer first value : Datum} {key name : String}
    (of_first : firstOf answer key = .ok first) (of_value : first.field name = .ok value) :
    TellsOfFirst answer key name value := by
  obtain ⟨things, of_key, first_of⟩ := bind_eq_ok.mp of_first
  obtain ⟨fields, rfl, found⟩ := table_of_field of_key
  obtain ⟨entry, rfl, there⟩ := table_of_field of_value
  obtain ⟨others, rfl⟩ := list_of_firstItem first_of
  exact ⟨fields, entry, others, rfl, found, there⟩

theorem showsNone_of_machines {answer : Datum} (none : machines answer = .ok 0) :
    ShowsNone answer := by
  obtain ⟨first, of_first, rest⟩ := bind_eq_ok.mp none
  obtain ⟨instances, of_instances, size⟩ := bind_eq_ok.mp rest
  exact ⟨instances, tellsOfFirst_of_firstOf of_first of_instances, size⟩

theorem firstOf_of_tellsOfFirst {answer value : Datum} {key name : String}
    (tells : TellsOfFirst answer key name value) :
    (do (← firstOf answer key).field name) = .ok value := by
  obtain ⟨fields, first, others, rfl, of_key, of_name⟩ := tells
  have found : firstOf (.table fields) key = .ok (.table first) := by
    rw [firstOf, Datum.field, of_key]
    rfl
  rw [found]
  show (Datum.table first).field name = _
  rw [Datum.field, of_name]

theorem machines_of_showsMachines {answer : Datum} {number : Nat}
    (shown : ShowsMachines answer number) : machines answer = .ok number := by
  obtain ⟨instances, tells, size⟩ := shown
  have counted : machines answer =
      (do (← firstOf answer "AutoScalingGroups").field "Instances") >>= Datum.size := by
    rw [machines, bind_assoc]
  rw [counted, firstOf_of_tellsOfFirst tells]
  exact size

theorem machines_of_showsNone {answer : Datum} (none : ShowsNone answer) :
    machines answer = .ok 0 :=
  machines_of_showsMachines none

variable {s : Scaler} {pool : NodePool} {tr : List (Exchange (Client τ))}

/-- A group that is found is named by the last answer. -/
theorem group_of_run {group : Datum}
    (run : Runs (s.group pool : Action (Client τ) Datum).outcome tr (.ok group)) :
    ∃ opening resources, tr = opening ++ [resolving (stackName s.cluster pool) (.ok resources)] ∧
      NamesGroup resources group := by
  obtain ⟨⟨⟩, asking, rfl, asked⟩ := Client.runs_ask_bind run
  obtain ⟨resources, tr₁, rfl, read⟩ := Client.runs_call_bind_ok asked
  obtain ⟨first, of_first, read⟩ := runs_fault_bind_ok read
  obtain ⟨rfl, named⟩ := Prog.runs_done.mp read
  refine ⟨_, resources, rfl, ?_⟩
  cases of_group : first.field "PhysicalResourceId" with
  | error f =>
    rw [of_group] at named
    cases named
  | ok value =>
    rw [of_group] at named
    cases named
    exact tellsOfFirst_of_firstOf of_first of_group

theorem uncut_group (s : Scaler) (pool : NodePool) :
    Uncut (s.group pool : Action (Client τ) Datum).outcome := by
  refine Action.uncut_bind (Client.uncut_ask _) fun _ => ?_
  refine Action.uncut_bind (Client.uncut_call ..) fun _ => ?_
  exact Action.uncut_bind (Action.uncut_liftM _) fun _ => .done _

theorem silent_group (s : Scaler) (pool : NodePool) :
    Action.Silent deletion? (s.group pool : Action (Client τ) Datum) := by
  refine .bind (Client.silent_ask fun _ => rfl) fun _ => ?_
  exact .bind (Client.silent_call fun _ => rfl) fun _ => .bind .ofExcept fun _ => .ofExcept

variable [Seconds τ]

/-- A look began before a deadline and saw more machines than asked for. -/
def SeesMore (replicas : Int) (deadline : τ) (look : τ × Datum) : Prop :=
  look.1 < deadline ∧ ∃ left : Nat, machines look.2 = .ok left ∧ ¬(left : Int) ≤ replicas

/-- A group that is named is on its way to nothing as long as looks before the deadline see more
than no machines. -/
theorem busy_of_seesMore {g : Emptying τ} {timeout : Number} {limit : τ}
    (named : NamesGroup g.resources g.group)
    (of_limit : (Seconds.ofNumber timeout : Except Fault τ) = .ok limit)
    (each : ∀ look ∈ g.looks, SeesMore 0 (g.start + limit) look) :
    g.Busy timeout (g.start + limit) := by
  refine ⟨named, ⟨limit, of_limit, rfl⟩, fun look mem => ?_⟩
  obtain ⟨early, left, of_left, many⟩ := each look mem
  refine ⟨early, fun none => ?_⟩
  cases of_left.symm.trans (machines_of_showsNone none)
  exact many (Int.le_refl 0)

/-- To watch a group comes to a good end only with a look that began in time and saw no more
machines than asked for, behind looks that saw more. -/
theorem looks_of_watch {group : Datum} {replicas : Int} {deadline pause : τ} {times : Nat}
    (run : Runs (s.watch pool group replicas deadline pause times).outcome tr (.ok ())) :
    ∃ (looks : List (τ × Datum)) (time : τ) (shown : Datum) (left : Nat),
      tr = looking group pause looks ++ [reading time, counting group (.ok shown)] ∧
      (∀ look ∈ looks, SeesMore replicas deadline look) ∧ time < deadline ∧
      machines shown = .ok left ∧ (left : Int) ≤ replicas := by
  induction times generalizing tr with
  | zero => cases run
  | succ times ih =>
    obtain ⟨(time : τ), later, rfl, looked⟩ := Client.runs_ask_bind run
    by_cases early : time < deadline
    · rw [if_pos early] at looked
      obtain ⟨shown, rest, rfl, counted⟩ := Client.runs_call_bind_ok looked
      obtain ⟨left, of_left, decided⟩ := runs_fault_bind_ok counted
      by_cases few : (left : Int) ≤ replicas
      · rw [if_pos few] at decided
        obtain ⟨rfl, -⟩ := Prog.runs_done.mp decided
        exact ⟨[], time, shown, left, rfl, nofun, early, of_left, few⟩
      · rw [if_neg few] at decided
        obtain ⟨⟨⟩, again, rfl, watched⟩ := Client.runs_ask_bind decided
        obtain ⟨looks, time', shown', left', rfl, each, told⟩ := ih watched
        exact ⟨(time, shown) :: looks, time', shown', left', rfl,
          List.forall_mem_cons.mpr ⟨⟨early, left, of_left, few⟩, each⟩, told⟩
    · rw [if_neg early] at looked
      cases (Action.runs_throw.mp looked).2

/-- A pool is scaled to nothing without an error only if the group of its stack was emptied. -/
theorem emptied_of_scale {times : Nat}
    (run : Runs (s.scale times pool 0 : Action (Client τ) Unit).outcome tr (.ok ())) :
    Emptied s.timeout (stackName s.cluster pool) tr := by
  obtain ⟨finding, group, rest, rfl, found, resizes⟩ := Action.runs_bind_ok.mp run
  obtain ⟨opening, resources, rfl, named⟩ := group_of_run found
  obtain ⟨resized, later, rfl, timed⟩ := Client.runs_call_bind_ok resizes
  split at timed
  · cases (Action.runs_throw.mp timed).2
  obtain ⟨limit, of_limit, timed⟩ := runs_fault_bind_ok timed
  obtain ⟨pause, -, started⟩ := runs_fault_bind_ok timed
  obtain ⟨(start : τ), watching, rfl, watched⟩ := Client.runs_ask_bind started
  obtain ⟨looks, time, shown, left, rfl, each, early, of_left, few⟩ := looks_of_watch watched
  obtain rfl : left = 0 := by omega
  refine ⟨⟨resources, group, resized, start, pause, looks⟩, start + limit, time, shown,
    busy_of_seesMore named of_limit each, ?_, early, showsNone_of_machines of_left⟩
  exact List.IsSuffix.isInfix ⟨opening, (List.append_assoc opening [_] _).symm⟩

/-! ## How long it may take -/

/-- To watch a group is cut off only when it has been looked at as often as may be, each time
before the deadline, and more machines than asked for were seen every time. -/
theorem looks_of_cuts_watch {group : Datum} {replicas : Int} {deadline pause : τ} {times : Nat}
    (cuts : Cuts (s.watch pool group replicas deadline pause times).outcome tr) :
    ∃ looks : List (τ × Datum), looks.length = times ∧
      (∀ look ∈ looks, SeesMore replicas deadline look) ∧ tr = looking group pause looks := by
  induction times generalizing tr with
  | zero =>
    cases cuts
    exact ⟨[], rfl, nofun, rfl⟩
  | succ times ih =>
    obtain ⟨(time : τ), later, rfl, looked⟩ := Client.cuts_ask_bind cuts
    by_cases early : time < deadline
    · rw [if_pos early] at looked
      obtain ⟨shown, rest, rfl, counted⟩ := Client.cuts_call_bind looked
      obtain ⟨left, of_left, decided⟩ := cuts_fault_bind counted
      by_cases few : (left : Int) ≤ replicas
      · rw [if_pos few] at decided
        cases decided
      · rw [if_neg few] at decided
        obtain ⟨⟨⟩, again, rfl, watched⟩ := Client.cuts_ask_bind decided
        obtain ⟨looks, length, each, rfl⟩ := ih watched
        exact ⟨(time, shown) :: looks, congrArg (· + 1) length,
          List.forall_mem_cons.mpr ⟨⟨early, left, of_left, few⟩, each⟩, rfl⟩
    · rw [if_neg early] at looked
      cases looked

/-- To scale a pool to nothing is cut off only when its group is still busy after as many looks
as may be. -/
theorem stillBusy_of_cuts_scale {times : Nat}
    (cuts : Cuts (s.scale times pool 0 : Action (Client τ) Unit).outcome tr) :
    StillBusy s.timeout (stackName s.cluster pool) times tr := by
  obtain ⟨finding, group, rest, rfl, found, resizes⟩ := Action.cuts_later (uncut_group s pool) cuts
  obtain ⟨opening, resources, rfl, named⟩ := group_of_run found
  obtain ⟨resized, later, rfl, timed⟩ := Client.cuts_call_bind resizes
  split at timed
  · cases timed
  obtain ⟨limit, of_limit, timed⟩ := cuts_fault_bind timed
  obtain ⟨pause, -, started⟩ := cuts_fault_bind timed
  obtain ⟨(start : τ), watching, rfl, watched⟩ := Client.cuts_ask_bind started
  obtain ⟨looks, length, each, rfl⟩ := looks_of_cuts_watch watched
  refine ⟨⟨resources, group, resized, start, pause, looks⟩, start + limit,
    busy_of_seesMore named of_limit each, ?_, length⟩
  exact ⟨opening, (List.append_assoc opening [_] _).symm⟩

/-! ## Nothing is deleted -/

theorem silent_watch (s : Scaler) (pool : NodePool) (group : Datum) (replicas : Int)
    (deadline pause : τ) (looks : Nat) :
    Action.Silent deletion? (s.watch pool group replicas deadline pause looks) := by
  induction looks with
  | zero => exact .cut
  | succ looks ih =>
    refine .bind (Client.silent_ask fun _ => rfl) fun time => ?_
    split
    · refine .bind (Client.silent_call fun _ => rfl) fun shown => .bind .ofExcept fun left => ?_
      split
      · exact .ofExcept
      · exact .bind (Client.silent_ask fun _ => rfl) fun _ => ih
    · exact .ofExcept

/-- To scale a pool deletes no stack. -/
theorem silent_scale (s : Scaler) (looks : Nat) (pool : NodePool) (replicas : Int) :
    Action.Silent deletion? (s.scale looks pool replicas : Action (Client τ) Unit) := by
  refine .bind (silent_group s pool) fun group => ?_
  refine .bind (Client.silent_call fun _ => rfl) fun _ => ?_
  have timed : Action.Silent deletion? (do
      let limit ← (Seconds.ofNumber s.timeout : Except Fault τ)
      let pause ← (Seconds.ofNumber s.pollInterval : Except Fault τ)
      let start ← Client.now
      s.watch pool group replicas (start + limit) pause looks : Action (Client τ) Unit) :=
    .bind .ofExcept fun limit => .bind .ofExcept fun pause =>
      .bind (Client.silent_ask fun _ => rfl) fun start => silent_watch s pool group replicas _ _ _
  dsimp only
  split
  · exact .bind .ofExcept fun _ => timed
  · exact timed

end Scaler
end NodePools.Aws
