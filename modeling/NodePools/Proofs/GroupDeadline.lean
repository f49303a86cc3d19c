import NodePools.Proofs.Deadline
import NodePools.Proofs.ScalingGroup

/-!
# Scaling a group against the clock

In a world with a clock, where time is exact, a scaling group is found, is resized, and is then
looked at with a pause behind each look.  The looks lie at times that the latencies of the answers
and the pause tell (`atLook`).  The first of them that either is too late or sees few enough
machines is the end (`run_watch_onward`), and it comes before the time is used up by pauses alone
(`exists_last_look`).

So a pool is scaled without an error just when a look that begins before the deadline sees few
enough machines (`scaled_by_deadline`).
-/

namespace NodePools.Aws.Scaler

open Stacks (opening elapsed opening_add_latency elapsed_add_pause secondEach ofNumber_ten
  ofNumber_three)

variable {K : Type} {replies : ℕ → Reply K} {s : Scaler} {pool : NodePool} {group : Datum}
  {replicas : Int} {looks : ℕ}

/-! ## The calls of a scaler -/

/-- The answers to the looks come behind those to the search for the group and to its resizing. -/
def lookReplies (replies : ℕ → Reply K) (k : ℕ) : Reply K := replies (k + 2)

section

variable [Field K] (replies : ℕ → Reply K) (s : Scaler) (pool : NodePool) (group : Datum)
  (replicas : Int) (start pause : K)

/-- The search for the group of a pool's stack. -/
def search : Called K :=
  ⟨.exact start, "describe_stack_resources",
    [("StackName", .text (stackName s.cluster pool)),
      ("LogicalResourceId", .text "AutoScalingGroup")]⟩

/-- The resizing of a group, which begins when the group is found. -/
def resize : Called K :=
  ⟨.exact (start + (replies 0).latency), "update_auto_scaling_group",
    [("AutoScalingGroupName", group), ("MinSize", .whole replicas),
      ("DesiredCapacity", .whole replicas)]⟩

/-- The time at which a group is resized. -/
def resized : K := start + (replies 0).latency + (replies 1).latency

/-- The time at which a look begins, if a scaler goes on until then. -/
def lookTime (k : ℕ) : K := resized replies start + opening (lookReplies replies) pause k

/-- A look at a group, with the time at which it begins. -/
def groupLook (k : ℕ) : Called K :=
  ⟨.exact (lookTime replies start pause k), "describe_auto_scaling_groups",
    [("AutoScalingGroupNames", .list [group])]⟩

/-- All that is asked up to a look, and that look not. -/
def callsBefore (k : ℕ) : List (Called K) :=
  search s pool start :: resize replies group replicas start ::
    (List.range k).map (groupLook replies group start pause)

/-- The world before a look, if a scaler goes on until then. -/
def atLook (k : ℕ) : Watch K :=
  ⟨.exact (lookTime replies start pause k), callsBefore replies s pool group replicas start pause k,
    (List.range k).map fun j =>
      ⟨.exact (resized replies start + elapsed (lookReplies replies) pause j), .exact pause⟩⟩

/-- The world after a look, if a scaler goes on until then. -/
def behindLook (k : ℕ) : Watch K :=
  (atLook replies s pool group replicas start pause k).call (lookReplies replies k).latency
    "describe_auto_scaling_groups" [("AutoScalingGroupNames", .list [group])]

theorem atLook_zero : atLook replies s pool group replicas start pause 0 =
    ⟨.exact (resized replies start), callsBefore replies s pool group replicas start pause 0, []⟩ := by
  simp [atLook, lookTime, opening]

theorem length_calls_atLook (k : ℕ) :
    (atLook replies s pool group replicas start pause k).calls.length = k + 2 := by
  simp [atLook, callsBefore]

theorem calls_behindLook (k : ℕ) : (behindLook replies s pool group replicas start pause k).calls =
    callsBefore replies s pool group replicas start pause (k + 1) := by
  rw [callsBefore, List.range_succ, List.map_append]
  rfl

theorem sleep_behindLook (k : ℕ) :
    (behindLook replies s pool group replicas start pause k).sleep (.exact pause) =
      atLook replies s pool group replicas start pause (k + 1) := by
  have clock : (behindLook replies s pool group replicas start pause k).clock =
      .exact (resized replies start + elapsed (lookReplies replies) pause k) := by
    rw [← opening_add_latency, ← add_assoc]
    rfl
  refine Watch.ext ?_ (calls_behindLook ..) ?_
  · rw [Watch.sleep, clock, Time.exact_add, add_assoc, elapsed_add_pause]
    rfl
  · rw [Watch.sleep, clock, atLook, List.range_succ, List.map_append]
    rfl

end

/-! ## The course of a watch -/

/-- In a world that gives replies one goes on with what a call is answered. -/
theorem run_call_bind [Add K] {β : Type} {service method : String} {arguments : Fields Datum}
    {f : Datum → Action (Client (Time K)) β} {w : Watch K} {d : Datum}
    (ok : (replies w.calls.length).answer = .ok d) :
    (Client.call service method arguments >>= f).outcome.run (timed replies) w =
      (f d).outcome.run (timed replies)
        (w.call (replies w.calls.length).latency method arguments) := by
  have called : (Client.call service method arguments :
      Action (Client (Time K)) Datum).outcome.run (timed replies) w =
        (some (replies w.calls.length).answer,
          w.call (replies w.calls.length).latency method arguments) := rfl
  rw [Action.outcome_bind, Prog.run_bind, called, ok]

section

variable [Field K] [LinearOrder K] {start limit pause : K} {seen : ℕ → ℕ}

theorem stillRunning_of_ofNumber (pool : NodePool) {t : Time K}
    (of_timeout : (Seconds.ofNumber s.timeout : Except Fault (Time K)) = .ok t) :
    ∃ seconds, s.timeout.wholeText? = some seconds ∧
      s.stillRunning pool = .scaling (.stillRunning pool.name seconds) := by
  obtain ⟨seconds, told⟩ := Option.isSome_iff_exists.mp (Time.wholeText?_of_ofNumber of_timeout)
  refine ⟨seconds, told, ?_⟩
  rw [stillRunning, told]

/-- To scale a pool comes to the first look when the group is found and resized. -/
theorem run_scale (found : ∃ d, (replies 0).answer = .ok d ∧ NamesGroup d group)
    (accepted : ∃ d, (replies 1).answer = .ok d)
    (of_timeout : (Seconds.ofNumber s.timeout : Except Fault (Time K)) = .ok (.exact limit))
    (of_interval : (Seconds.ofNumber s.pollInterval : Except Fault (Time K)) = .ok (.exact pause))
    (looks : ℕ) (pool : NodePool) (replicas : Int) (start : K) :
    (s.scale looks pool replicas : Action (Client (Time K)) Unit).outcome.run (timed replies)
        (.fresh start) =
      (s.watch pool group replicas (.exact (resized replies start + limit)) (.exact pause)
        looks).outcome.run (timed replies) (atLook replies s pool group replicas start pause 0) := by
  obtain ⟨resources, first, names⟩ := found
  obtain ⟨d, second⟩ := accepted
  have searched : (s.group pool : Action (Client (Time K)) Datum).outcome.run (timed replies)
      (.fresh start) = (some (.ok group),
        (Watch.fresh start).call (replies 0).latency "describe_stack_resources"
          [("StackName", .text (stackName s.cluster pool)),
            ("LogicalResourceId", .text "AutoScalingGroup")]) := by
    show (Client.call _ _ _ >>= _ : Action (Client (Time K)) Datum).outcome.run (timed replies)
      (.fresh start) = _
    rw [run_call_bind first]
    obtain ⟨entry, of_first, of_name⟩ := bind_eq_ok.mp (firstOf_of_tellsOfFirst names)
    rw [of_first]
    show (liftM (entry.field "PhysicalResourceId") : Action (Client (Time K)) Datum).outcome.run
      (timed replies) _ = _
    rw [of_name]
    rfl
  rw [scale, Action.outcome_bind, Prog.run_bind, searched]
  show (Client.call _ _ _ >>= _ : Action (Client (Time K)) Unit).outcome.run (timed replies) _ = _
  rw [run_call_bind second]
  have real : s.timeout.toFloat?.isNone = false := by
    cases of_number : s.timeout.toFloat? with
    | some x => rfl
    | none =>
      simp only [Seconds.ofNumber, of_number] at of_timeout
      cases of_timeout
  dsimp only
  rw [real, of_timeout, of_interval, atLook_zero]
  rfl

/-- A look begins before the deadline, which comes the timeout after the group is resized. -/
def InTime (replies : ℕ → Reply K) (start limit pause : K) (k : ℕ) : Prop :=
  lookTime replies start pause k < resized replies start + limit

instance : DecidablePred (InTime replies start limit pause) :=
  fun _ => inferInstanceAs (Decidable (_ < _))

/-- One look of many: it comes too late, or it is the end, or the next one comes after a sleep. -/
theorem run_watch_succ (shown : ∀ k, ∃ d, (lookReplies replies k).answer = .ok d ∧
    ShowsMachines d (seen k)) (k : ℕ) :
    (s.watch pool group replicas (.exact (resized replies start + limit)) (.exact pause)
        (looks + 1)).outcome.run (timed replies)
        (atLook replies s pool group replicas start pause k) =
      if InTime replies start limit pause k then
        if (seen k : Int) ≤ replicas then
          (some (.ok ()), behindLook replies s pool group replicas start pause k)
        else
          (s.watch pool group replicas (.exact (resized replies start + limit)) (.exact pause)
            looks).outcome.run (timed replies)
            (atLook replies s pool group replicas start pause (k + 1))
      else (some (.error (s.stillRunning pool)),
        atLook replies s pool group replicas start pause k) := by
  obtain ⟨d, answered, shows⟩ := shown k
  have before : (atLook replies s pool group replicas start pause k).clock <
      .exact (resized replies start + limit) ↔ InTime replies start limit pause k :=
    Time.exact_lt
  have here : (replies (atLook replies s pool group replicas start pause k).calls.length).answer =
      .ok d := by
    rw [length_calls_atLook]
    exact answered
  show (if _ then _ else _ : Action (Client (Time K)) Unit).outcome.run (timed replies) _ = _
  split
  next early =>
    rw [if_pos (before.mp early), run_call_bind here, machines_of_showsMachines shows,
      length_calls_atLook]
    show (if _ then _ else _ : Action (Client (Time K)) Unit).outcome.run (timed replies)
      (behindLook replies s pool group replicas start pause k) = _
    split
    · rfl
    · rw [← sleep_behindLook]
      rfl
  next late =>
    rw [if_neg (mt before.mpr late)]
    rfl

/-- As long as the looks are in time and see too many machines, a watch comes from one look to
the next. -/
theorem run_watch_onward (shown : ∀ k, ∃ d, (lookReplies replies k).answer = .ok d ∧
    ShowsMachines d (seen k)) {k : ℕ}
    (onward : ∀ j < k, InTime replies start limit pause j ∧ replicas < seen j) :
    (s.watch pool group replicas (.exact (resized replies start + limit)) (.exact pause)
        (k + looks)).outcome.run (timed replies)
        (atLook replies s pool group replicas start pause 0) =
      (s.watch pool group replicas (.exact (resized replies start + limit)) (.exact pause)
        looks).outcome.run (timed replies)
        (atLook replies s pool group replicas start pause k) := by
  induction k generalizing looks with
  | zero => rw [Nat.zero_add]
  | succ k ih =>
    obtain ⟨early, many⟩ := onward k k.lt_succ_self
    rw [Nat.add_right_comm, Nat.add_assoc, ih fun j less => onward j (Nat.lt_succ_of_lt less),
      run_watch_succ shown, if_pos early, if_neg many.not_ge]

/-! ## When a watch ends -/

variable [IsStrictOrderedRing K]

theorem monotone_lookTime (prompt : ∀ k, 0 ≤ (replies k).latency) (pauses : 0 < pause) :
    Monotone (lookTime replies start pause) := by
  refine monotone_nat_of_le_succ fun k => add_le_add_right ?_ _
  rw [← elapsed_add_pause, ← opening_add_latency]
  have taken : 0 ≤ (lookReplies replies k).latency := prompt (k + 2)
  linarith

/-- Pauses alone would use up the time there is. -/
theorem InTime.mul_lt (prompt : ∀ k, 0 ≤ (replies k).latency) {k : ℕ}
    (early : InTime replies start limit pause k) : k * pause < limit := by
  have taken : 0 ≤ ∑ j ∈ Finset.range k, (lookReplies replies j).latency :=
    Finset.sum_nonneg fun j _ => prompt (j + 2)
  have within : opening (lookReplies replies) pause k < limit := lt_of_add_lt_add_left early
  rw [opening] at within
  linarith

variable [FloorSemiring K]

theorem InTime.lt_ceil (prompt : ∀ k, 0 ≤ (replies k).latency) (pauses : 0 < pause) {k : ℕ}
    (early : InTime replies start limit pause k) : k < ⌈limit / pause⌉₊ :=
  Nat.lt_ceil.mpr ((lt_div_iff₀ pauses).mpr (early.mul_lt prompt))

/-- There is a first look that either is too late or sees few enough machines. -/
theorem exists_last_look (prompt : ∀ k, 0 ≤ (replies k).latency) (pauses : 0 < pause)
    (start limit : K) (replicas : Int) (seen : ℕ → ℕ) :
    ∃ k ≤ ⌈limit / pause⌉₊, (∀ j < k, InTime replies start limit pause j ∧ replicas < seen j) ∧
      ¬(InTime replies start limit pause k ∧ replicas < seen k) := by
  classical
  have some_look : ∃ k, ¬(InTime replies start limit pause k ∧ replicas < seen k) :=
    ⟨⌈limit / pause⌉₊, fun onward => lt_irrefl _ (onward.1.lt_ceil prompt pauses)⟩
  refine ⟨Nat.find some_look, Nat.find_min' _ ?_, fun j less => ?_, Nat.find_spec some_look⟩
  · exact fun onward => lt_irrefl _ (onward.1.lt_ceil prompt pauses)
  · exact not_not.mp (Nat.find_min some_look less)

/-- What comes of scaling a pool against the clock, with so many looks. -/
structure ScaledByDeadline (replies : ℕ → Reply K) (s : Scaler) (pool : NodePool) (group : Datum)
    (replicas : Int) (start limit pause : K) (seen : ℕ → ℕ) (looks : ℕ)
    (result : Option (Except Error Unit)) (w : Watch K) : Prop where
  /-- The group is found and resized, each once, and then looked at. -/
  calls : w.calls = callsBefore replies s pool group replicas start pause looks
  /-- Every look begins before the deadline. -/
  inTime : ∀ k < looks, InTime replies start limit pause k
  /-- There are not more looks than pauses in the time there is, rounded up. -/
  few : looks ≤ ⌈limit / pause⌉₊
  /-- There is none if there is no time. -/
  idle : limit ≤ 0 → looks = 0
  /-- The pool is scaled just when a look in time sees few enough machines. -/
  scaled : result = some (.ok ()) ↔ ∃ k, InTime replies start limit pause k ∧ seen k ≤ replicas
  /-- Then the first such look is the last one that is taken. -/
  first : result = some (.ok ()) → ∃ k, looks = k + 1 ∧
    IsLeast {k | InTime replies start limit pause k ∧ seen k ≤ replicas} k
  /-- If there is no such look, all the looks in time are taken and an error tells for how long. -/
  running : (∀ k, InTime replies start limit pause k → replicas < seen k) →
    (∀ k, InTime replies start limit pause k → k < looks) ∧
    ∃ seconds, s.timeout.wholeText? = some seconds ∧
      result = some (.error (.scaling (.stillRunning pool.name seconds)))

/-- If the group of a pool is found and resized and every look tells how many machines there are,
the pool is scaled or is not in time: it is scaled just when a look that begins before the deadline
sees few enough machines, and no look begins later. -/
theorem scaled_by_deadline (found : ∃ d, (replies 0).answer = .ok d ∧ NamesGroup d group)
    (accepted : ∃ d, (replies 1).answer = .ok d)
    (shown : ∀ k, ∃ d, (replies (k + 2)).answer = .ok d ∧ ShowsMachines d (seen k))
    (prompt : ∀ k, 0 ≤ (replies k).latency) (pauses : 0 < pause)
    (of_timeout : (Seconds.ofNumber s.timeout : Except Fault (Time K)) = .ok (.exact limit))
    (of_interval : (Seconds.ofNumber s.pollInterval : Except Fault (Time K)) = .ok (.exact pause))
    (enough : ⌈limit / pause⌉₊ < looks) (pool : NodePool) (replicas : Int) (start : K) :
    ∃ taken result w,
      (s.scale looks pool replicas : Action (Client (Time K)) Unit).outcome.run (timed replies)
        (.fresh start) = (result, w) ∧
      ScaledByDeadline replies s pool group replicas start limit pause seen taken result w := by
  obtain ⟨k, most, onward, stops⟩ := exists_last_look prompt pauses start limit replicas seen
  obtain ⟨more, rfl⟩ := Nat.exists_eq_add_of_lt (most.trans_lt enough)
  have monotone : Monotone (lookTime replies start pause) := monotone_lookTime prompt pauses
  -- a look in time that sees few machines is not before the one at which the watch ends
  have later {j : ℕ} (early : InTime replies start limit pause j) (few : seen j ≤ replicas) :
      k ≤ j :=
    not_lt.mp fun less => (onward j less).2.not_ge few
  have idle {taken : ℕ} (few : taken ≤ ⌈limit / pause⌉₊) (none : limit ≤ 0) : taken = 0 := by
    rw [Nat.ceil_eq_zero.mpr (div_nonpos_of_nonpos_of_nonneg none pauses.le)] at few
    exact Nat.le_zero.mp few
  have run := run_scale found accepted of_timeout of_interval (k + more + 1) pool replicas start
  rw [Nat.add_assoc, run_watch_onward shown onward, run_watch_succ shown] at run
  by_cases early : InTime replies start limit pause k
  · have few : seen k ≤ replicas := not_lt.mp fun many => stops ⟨early, many⟩
    have within : k + 1 ≤ ⌈limit / pause⌉₊ := early.lt_ceil prompt pauses
    rw [if_pos early, if_pos few] at run
    exact ⟨k + 1, _, _, run, {
      calls := calls_behindLook ..
      inTime := fun j less => (monotone (Nat.le_of_lt_succ less)).trans_lt early
      few := within
      idle := idle within
      scaled := ⟨fun _ => ⟨k, early, few⟩, fun _ => rfl⟩
      first := fun _ => ⟨k, rfl, ⟨early, few⟩, fun j look => later look.1 look.2⟩
      running := fun many => absurd few (many k early).not_ge }⟩
  · obtain ⟨seconds, told, error⟩ := stillRunning_of_ofNumber pool of_timeout
    rw [if_neg early, error] at run
    exact ⟨k, _, _, run, {
      calls := rfl
      inTime := fun j less => (onward j less).1
      few := most
      idle := idle most
      scaled := ⟨nofun, fun ⟨j, in_time, few⟩ =>
        absurd ((monotone (later in_time few)).trans_lt in_time) early⟩
      first := nofun
      running := fun _ => ⟨fun j in_time => not_le.mp fun behind =>
        early ((monotone behind).trans_lt in_time), seconds, told, rfl⟩ }⟩

end

/-! ## A group that shrinks in time -/

/-- A scaler that looks every three seconds for ten seconds. -/
def hasty : Scaler := ⟨⟨"kube", "eu-central-1", [], List.nodup_nil⟩, .whole 3, .whole 10⟩

/-- How a group is found and resized, and then loses one of two machines at a time. -/
def leaving : ℕ → Except Error Datum
  | 0 => .ok (.table [("StackResources", .list [.table [("PhysicalResourceId", .text "group")]])])
  | 1 => .ok (.table [])
  | k + 2 => .ok (.table [("AutoScalingGroups", .list [.table
      [("Instances", .list (List.replicate (2 - k) .null))]])])

theorem showsMachines_leaving (k : ℕ) :
    ∃ d, (secondEach leaving (k + 2)).answer = .ok d ∧ ShowsMachines d (2 - k) := by
  refine ⟨_, rfl, _, ⟨_, _, _, rfl, rfl, rfl⟩, ?_⟩
  rw [Datum.size, List.length_replicate]

/-- The third look, which begins eight seconds after the group was resized, sees no machines. -/
theorem drained_in_ten_seconds : ∃ w,
    (hasty.scale 5 (.identified "old" "worker") 0 : Action (Client (Time ℚ)) Unit).outcome.run
      (timed (secondEach leaving)) (.fresh 0) = (some (.ok ()), w) ∧
    w.calls = callsBefore (secondEach leaving) hasty (.identified "old" "worker") (.text "group")
      0 0 3 3 := by
  have found : ∃ d, (secondEach leaving 0).answer = .ok d ∧ NamesGroup d (.text "group") :=
    ⟨_, rfl, _, _, _, rfl, rfl, rfl⟩
  have enough : ⌈(10 : ℚ) / 3⌉₊ < 5 := Nat.lt_succ_of_le (Nat.ceil_le.mpr (by norm_num))
  have prompt (k : ℕ) : 0 ≤ (secondEach leaving k).latency := zero_le_one
  obtain ⟨taken, result, w, run, told⟩ := scaled_by_deadline (s := hasty) found ⟨_, rfl⟩
    showsMachines_leaving prompt three_pos ofNumber_ten ofNumber_three enough
    (.identified "old" "worker") 0 0
  have early : InTime (secondEach leaving) 0 10 3 2 := by
    norm_num [InTime, lookTime, resized, opening, lookReplies, secondEach]
  have done := told.scaled.mpr ⟨2, early, le_rfl⟩
  obtain ⟨k, rfl, least⟩ := told.first done
  have last : k = 2 := by
    have no_later : k ≤ 2 := least.2 ⟨early, le_rfl⟩
    have seen_none : ((2 - k : ℕ) : Int) ≤ 0 := least.1.2
    omega
  rw [last] at told
  exact ⟨w, done ▸ run, told.calls⟩

end NodePools.Aws.Scaler
