import Mathlib.Algebra.BigOperators.Group.Finset.Basic
import Mathlib.Tactic.Ring
import NodePools.Proofs.Convergence
import NodePools.Proofs.ExactTime

/-!
# The course of a wait

How a wait for a stack goes in a world with a clock, where time is exact.  A look either is the
end, or leaves no time for another one, or is followed by a sleep and the next look
(`run_poll_succ`).  As long as a wait goes on, its looks and sleeps lie at times that the
latencies of the answers and the pause between looks tell (`before`, `behind`); so it comes to
the first look behind which it does not go on (`run_poll_course`), and ends there
(`waited_settled`, `waited_timedOut`).
-/

namespace NodePools.Aws.Stacks

variable {K : Type} {replies : ℕ → Reply K} {name : String} {looks : ℕ}

/-! ## One look -/

section

variable [Add K]

/-- The world after a look at a stack. -/
def looked (replies : ℕ → Reply K) (name : String) (w : Watch K) : Watch K :=
  w.call (replies w.calls.length).latency "describe_stacks" [("StackName", .text name)]

theorem run_look (w : Watch K) :
    (look name : Action (Client (Time K)) (Option Look)).outcome.run (timed replies) w =
      (some (shown (replies w.calls.length).answer), looked replies name w) := by
  have called : (Client.call service "describe_stacks" [("StackName", .text name)] :
      Action (Client (Time K)) Datum).outcome.run (timed replies) w =
        (some (replies w.calls.length).answer, looked replies name w) := rfl
  rw [look, Action.outcome_bind, Prog.run_bind, called]
  cases (replies w.calls.length).answer with
  | ok d => rfl
  | error e => rfl

/-- A record of the status takes no time and leaves it as it is. -/
theorem run_logged (x : Action (Client (Time K)) String) (message : String → String)
    (w : Watch K) :
    (x >>= fun status => do
      Client.log .debug (message status)
      return status).outcome.run (timed replies) w = x.outcome.run (timed replies) w := by
  rw [Action.outcome_bind, Prog.run_bind]
  rcases x.outcome.run (timed replies) w with ⟨_ | _ | status, mid⟩
  all_goals rfl

end

section

variable [Field K] [LinearOrder K]

/-- One look of many: it is the end, or the time is up behind it, or the next one comes after a
sleep. -/
theorem run_poll_succ (start limit pause : Time K) (w : Watch K) :
    (poll name start limit pause (looks + 1)).run (timed replies) w =
      match pending (shown (replies w.calls.length).answer) with
      | .error f => (some (.settled (.error (.fault f))), looked replies name w)
      | .ok false =>
        (some (.settled (shown (replies w.calls.length).answer)), looked replies name w)
      | .ok true =>
        if limit ≤ ((looked replies name w).clock - start) + pause then
          (some .timedOut, looked replies name w)
        else (poll name start limit pause looks).run (timed replies)
          ((looked replies name w).sleep pause) := by
  rw [poll, Prog.bind_eq, Prog.run_bind, run_look]
  dsimp only
  cases pending (shown (replies w.calls.length).answer) with
  | error f => rfl
  | ok still =>
    cases still with
    | false => rfl
    | true =>
      show Prog.run _ (if limit ≤ ((looked replies name w).clock - start) + pause then _ else _) _ = _
      split
      · rfl
      · rfl

/-- What a wait for a stack comes to in a world that gives replies, and what the world keeps of
it.  It is cut off if it takes more looks than there may be. -/
def waited (replies : ℕ → Reply K) (looks : ℕ) (region : Datum) (name : String)
    (timeout interval : Number) (start : K) : Option (Except Error String) × Watch K :=
  (wait looks region name timeout interval : Action (Client (Time K)) String).outcome.run
    (timed replies) (.fresh start)

/-- What a wait comes to is what its looks tell. -/
theorem run_wait {region : Datum} {timeout interval : Number} {limit pause : Time K}
    (of_timeout : (Seconds.ofNumber timeout : Except Fault (Time K)) = .ok limit)
    (of_interval : (Seconds.ofNumber interval : Except Fault (Time K)) = .ok pause)
    (start : K) :
    waited replies looks region name timeout interval start =
      ((poll name (.exact start) limit pause looks).run (timed replies) (.fresh start)).map
        (Option.map (verdict name timeout)) id := by
  rw [waited, wait, of_timeout, of_interval, ← Prog.run_map]
  exact run_logged _ _ (.fresh start)

end

/-! ## The course of a wait -/

section

variable [Field K] (replies : ℕ → Reply K) (name : String) (start pause : K)

/-- The time from the start of a wait to a look at the stack, if the wait goes on until then. -/
def opening (k : ℕ) : K := ∑ j ∈ Finset.range k, (replies j).latency + k * pause

/-- The time from the start of a wait to the answer to a look, if the wait goes on until then. -/
def elapsed (k : ℕ) : K := ∑ j ∈ Finset.range (k + 1), (replies j).latency + k * pause

/-- A look, with the time at which it begins. -/
def lookAt (k : ℕ) : Called K :=
  ⟨.exact (start + opening replies pause k), "describe_stacks", [("StackName", .text name)]⟩

/-- The sleep behind a look, with the time at which it begins. -/
def sleepAt (k : ℕ) : Slept K := ⟨.exact (start + elapsed replies pause k), .exact pause⟩

/-- The world before a look, if the wait goes on until then. -/
def before (k : ℕ) : Watch K :=
  ⟨.exact (start + opening replies pause k), (List.range k).map (lookAt replies name start pause),
    (List.range k).map (sleepAt replies start pause)⟩

/-- The world after a look, if the wait goes on until then. -/
def behind (k : ℕ) : Watch K :=
  ⟨.exact (start + elapsed replies pause k),
    (List.range (k + 1)).map (lookAt replies name start pause),
    (List.range k).map (sleepAt replies start pause)⟩

theorem opening_add_latency (k : ℕ) :
    opening replies pause k + (replies k).latency = elapsed replies pause k := by
  rw [opening, elapsed, Finset.sum_range_succ]
  ring

theorem elapsed_add_pause (k : ℕ) :
    elapsed replies pause k + pause = opening replies pause (k + 1) := by
  rw [opening, elapsed]
  push_cast
  ring

theorem before_zero : before replies name start pause 0 = .fresh start := by
  simp [before, opening, Watch.fresh]

theorem length_calls_before (k : ℕ) : (before replies name start pause k).calls.length = k := by
  simp [before]

theorem looked_before (k : ℕ) : looked replies name (before replies name start pause k) =
    behind replies name start pause k := by
  rw [looked, length_calls_before, behind, ← opening_add_latency, ← add_assoc, List.range_succ,
    List.map_append]
  rfl

theorem sleep_behind (k : ℕ) : (behind replies name start pause k).sleep (.exact pause) =
    before replies name start pause (k + 1) := by
  refine Watch.ext ?_ rfl ?_
  · show Time.exact (start + elapsed replies pause k) + .exact pause = .exact (start + _)
    rw [Time.exact_add, add_assoc, elapsed_add_pause]
  · show _ ++ [sleepAt replies start pause k] = List.map _ (List.range (k + 1))
    rw [List.range_succ, List.map_append]
    rfl

end

section

variable [Field K] [LinearOrder K] {start pause : K} {limit : Time K}

/-- A wait goes on behind a look: that was not the end, and there is time for another one. -/
def GoesOn (replies : ℕ → Reply K) (limit : Time K) (pause : K) (k : ℕ) : Prop :=
  Unsettled (replies k).answer ∧ ¬limit ≤ .exact (elapsed replies pause k + pause)

theorem run_poll_before (k : ℕ) :
    (poll name (.exact start) limit (.exact pause) (looks + 1)).run (timed replies)
        (before replies name start pause k) =
      match pending (shown (replies k).answer) with
      | .error f =>
        (some (.settled (.error (.fault f))), behind replies name start pause k)
      | .ok false => (some (.settled (shown (replies k).answer)),
          behind replies name start pause k)
      | .ok true =>
        if limit ≤ .exact (elapsed replies pause k + pause) then
          (some .timedOut, behind replies name start pause k)
        else (poll name (.exact start) limit (.exact pause) looks).run (timed replies)
          (before replies name start pause (k + 1)) := by
  have since : (behind replies name start pause k).clock - .exact start +
      .exact pause = .exact (elapsed replies pause k + pause) := by
    rw [behind, Time.exact_sub, Time.exact_add, add_sub_cancel_left]
  rw [run_poll_succ, looked_before, since, sleep_behind, length_calls_before]

/-- As long as it goes on, a wait comes from one look to the next. -/
theorem run_poll_onward {k : ℕ} (onward : ∀ j < k, GoesOn replies limit pause j) :
    (poll name (.exact start) limit (.exact pause) (k + looks)).run (timed replies)
        (.fresh start) =
      (poll name (.exact start) limit (.exact pause) looks).run (timed replies)
        (before replies name start pause k) := by
  induction k generalizing looks with
  | zero => rw [before_zero, Nat.zero_add]
  | succ k ih =>
    obtain ⟨unsettled, left⟩ := onward k k.lt_succ_self
    rw [Nat.add_assoc, Nat.add_comm 1, ih fun j less => onward j (less.trans k.lt_succ_self),
      run_poll_before, pending_of_unsettled unsettled]
    dsimp only
    rw [if_neg left]

/-- A look behind which a wait does not go on is the last one. -/
theorem run_poll_stops {k : ℕ} (stops : ¬GoesOn replies limit pause k) :
    ((poll name (.exact start) limit (.exact pause) (looks + 1)).run (timed replies)
      (before replies name start pause k)).2 = behind replies name start pause k := by
  rw [run_poll_before]
  cases found : pending (shown (replies k).answer) with
  | error f => rfl
  | ok still =>
    cases still with
    | false => rfl
    | true =>
      have late : limit ≤ .exact (elapsed replies pause k + pause) :=
        not_not.mp fun left => stops ⟨unsettled_of_pending found, left⟩
      dsimp only
      rw [if_pos late]

/-- Looks go on up to one behind which they stop, or until they are cut off. -/
theorem run_poll_course (replies : ℕ → Reply K) (name : String) (start pause : K) (limit : Time K)
    (looks : ℕ) :
    ∃ k, (∀ j < k, GoesOn replies limit pause j) ∧
      (k = looks ∧ ((poll name (.exact start) limit (.exact pause) looks).run (timed replies)
          (.fresh start)).2 = before replies name start pause k ∨
        k < looks ∧ ((poll name (.exact start) limit (.exact pause) looks).run (timed replies)
          (.fresh start)).2 = behind replies name start pause k) := by
  by_cases onward : ∀ j < looks, GoesOn replies limit pause j
  · have ran : (poll name (.exact start) limit (.exact pause) (looks + 0)).run (timed replies)
        (.fresh start) = (none, before replies name start pause looks) := run_poll_onward onward
    exact ⟨looks, onward, .inl ⟨rfl, congrArg Prod.snd ran⟩⟩
  · -- some look stops the wait, and the first one that does is the last look
    classical
    have some_stops : ∃ k, k < looks ∧ ¬GoesOn replies limit pause k := by
      push Not at onward
      exact onward
    obtain ⟨k, ⟨less, stops⟩, least⟩ : ∃ k, (k < looks ∧ ¬GoesOn replies limit pause k) ∧
        ∀ j < k, ¬(j < looks ∧ ¬GoesOn replies limit pause j) :=
      ⟨Nat.find some_stops, Nat.find_spec some_stops, fun j => Nat.find_min some_stops⟩
    replace onward (j : ℕ) (earlier : j < k) : GoesOn replies limit pause j :=
      not_not.mp fun stops' => least j earlier ⟨earlier.trans less, stops'⟩
    obtain ⟨rest, rfl⟩ := Nat.exists_eq_add_of_lt less
    rw [Nat.add_assoc, run_poll_onward onward, run_poll_stops stops]
    exact ⟨k, onward, .inr ⟨less, rfl⟩⟩

end

/-! ## How a wait ends -/

section

variable [Field K] [LinearOrder K] {start pause : K} {limit : Time K} {region : Datum}
  {timeout interval : Number}

/-- A wait ends with the first answer that is the end, if it goes on until then. -/
theorem waited_settled
    (of_timeout : (Seconds.ofNumber timeout : Except Fault (Time K)) = .ok limit)
    (of_interval : (Seconds.ofNumber interval : Except Fault (Time K)) = .ok (.exact pause))
    {n : ℕ} (onward : ∀ j < n, GoesOn replies limit pause j)
    (ends : pending (shown (replies n).answer) = .ok false) (enough : n < looks) :
    waited replies looks region name timeout interval start =
      (some (verdict name timeout (.settled (shown (replies n).answer))),
        behind replies name start pause n) := by
  obtain ⟨rest, rfl⟩ := Nat.exists_eq_add_of_lt enough
  rw [run_wait of_timeout of_interval, Nat.add_assoc, run_poll_onward onward, run_poll_before, ends]
  rfl

/-- A wait is given up behind the first answer that leaves no time for another look, if it goes
on until then. -/
theorem waited_timedOut
    (of_timeout : (Seconds.ofNumber timeout : Except Fault (Time K)) = .ok limit)
    (of_interval : (Seconds.ofNumber interval : Except Fault (Time K)) = .ok (.exact pause))
    {m : ℕ} (onward : ∀ j < m, GoesOn replies limit pause j)
    (unsettled : Unsettled (replies m).answer)
    (late : limit ≤ .exact (elapsed replies pause m + pause)) (enough : m < looks) :
    waited replies looks region name timeout interval start =
      (some (.error (.stackTimeout (.text name) (.ofNumber timeout))),
        behind replies name start pause m) := by
  have told : verdict name timeout .timedOut =
      .error (.stackTimeout (.text name) (.ofNumber timeout)) :=
    congrArg Except.error (timedOut_of_wholeText (Time.wholeText?_of_ofNumber of_timeout))
  obtain ⟨rest, rfl⟩ := Nat.exists_eq_add_of_lt enough
  rw [run_wait of_timeout of_interval, Nat.add_assoc, run_poll_onward onward, run_poll_before,
    pending_of_unsettled unsettled, ← told]
  dsimp only
  rw [if_pos late]
  rfl

/-- The sleeps of a wait that goes on up to a look are those behind the looks before, and its
looks are those as well, and that one unless the wait is cut off before it. -/
theorem waited_history
    (of_timeout : (Seconds.ofNumber timeout : Except Fault (Time K)) = .ok limit)
    (of_interval : (Seconds.ofNumber interval : Except Fault (Time K)) = .ok (.exact pause))
    (looks : ℕ) (region : Datum) (name : String) (start : K) :
    ∃ k c, (∀ j < k, GoesOn replies limit pause j) ∧ c ≤ k + 1 ∧ (0 < looks → 0 < c) ∧
      (waited replies looks region name timeout interval start).2.sleeps =
        (List.range k).map (sleepAt replies start pause) ∧
      (waited replies looks region name timeout interval start).2.calls =
        (List.range c).map (lookAt replies name start pause) := by
  have ended (w : Watch K) : ((poll name (.exact start) limit (.exact pause) looks).run
      (timed replies) (.fresh start)).2 = w →
      (waited replies looks region name timeout interval start).2 = w := by
    rw [run_wait of_timeout of_interval]
    exact id
  obtain ⟨k, onward, ⟨rfl, cut⟩ | ⟨less, last⟩⟩ :=
    run_poll_course replies name start pause limit looks
  · rw [ended _ cut]
    exact ⟨k, k, onward, k.le_succ, id, rfl, rfl⟩
  · rw [ended _ last]
    exact ⟨k, k + 1, onward, le_rfl, fun _ => k.succ_pos, rfl, rfl⟩

/-- Answers of the same latency that are not the end either make no difference to a wait. -/
theorem run_poll_congr {replies' : ℕ → Reply K}
    (latency : ∀ k, (replies' k).latency = (replies k).latency)
    (answer : ∀ k, (replies' k).answer = (replies k).answer ∨
      Unsettled (replies' k).answer ∧ Unsettled (replies k).answer)
    (start limit pause : Time K) (w : Watch K) :
    (poll name start limit pause looks).run (timed replies') w =
      (poll name start limit pause looks).run (timed replies) w := by
  have same (w : Watch K) : looked replies' name w = looked replies name w := by
    rw [looked, looked, latency]
  induction looks generalizing w with
  | zero => rfl
  | succ looks ih =>
    rw [run_poll_succ, run_poll_succ, same]
    rcases answer w.calls.length with equal | ⟨unsettled', unsettled⟩
    · rw [equal, ih]
    · rw [pending_of_unsettled unsettled', pending_of_unsettled unsettled, ih]

end

end NodePools.Aws.Stacks
