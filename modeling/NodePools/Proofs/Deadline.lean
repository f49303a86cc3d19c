import Mathlib.Algebra.Order.BigOperators.Group.Finset
import Mathlib.Algebra.Order.Floor.Semiring
import Mathlib.Data.Rat.Floor
import Mathlib.Order.Bounds.Basic
import Mathlib.Tactic.Linarith
import NodePools.Proofs.TimedWait

/-!
# Waiting against the clock

A wait for a stack is a race between the answers and the deadline.  The first answer that is the
end decides it, even one that comes when no time is left for another look; if an answer that is
not the end comes that late, the wait is given up (`waited_by_first_end_or_deadline`).  It never
sleeps up to its deadline, so that the time there is bounds how often it looks
(`waited_within_deadline`).
-/

namespace NodePools.Aws.Stacks

variable {K : Type} {replies : ℕ → Reply K} {name : String} {looks : ℕ}

/-! ## What comes first -/

/-- An answer to a look at a stack: it describes one or none, or it is an error of the service
with a code in text or none at all. -/
inductive Proper : Except Error Datum → Prop
  | described {d : Datum} {status : String} : Describes d status → Proper (.ok d)
  | missing {d : Datum} : DescribesNone d → Proper (.ok d)
  | refused {e : ClientError} {code : String} : e.code.getD (.text "") = .text code →
    Proper (.error (.client e))

/-- What a wait comes to with an answer that is the end: the status that was asked for, or the
error of a wait. -/
inductive Concludes (name : String) : Except Error Datum → Except Error String → Prop
  | converged {d : Datum} {status : String} : Describes d status →
    status = "CREATE_COMPLETE" ∨ status = "UPDATE_COMPLETE" → Concludes name (.ok d) (.ok status)
  | astray {answer : Except Error Datum} (reason : Datum) : Unwanted answer →
    Concludes name answer (.error (.stack .wait (.text name) reason))

theorem verdict_of_converged (name : String) {d : Datum} {status : String} (timeout : Number)
    (described : Describes d status)
    (asked : status = "CREATE_COMPLETE" ∨ status = "UPDATE_COMPLETE") :
    pending (shown (.ok d)) = .ok false ∧
      verdict name timeout (.settled (shown (.ok d))) = .ok status := by
  obtain ⟨reason, look⟩ := lookOf_of_describes described
  rw [shown_ok, look]
  have settled : Text.finishesWith workingEnding.toList status.toList = false := by
    rcases asked with rfl | rfl <;> decide
  refine ⟨congrArg Except.ok settled, ?_⟩
  rcases asked with rfl | rfl <;> rfl

/-- A proper answer that is the end decides what a wait comes to. -/
theorem Proper.concludes (name : String) {answer : Except Error Datum} (timeout : Number)
    (proper : Proper answer) (ends : ¬Unsettled answer) :
    pending (shown answer) = .ok false ∧
      Concludes name answer (verdict name timeout (.settled (shown answer))) := by
  have unwanted (h : Unwanted answer) : pending (shown answer) = .ok false ∧
      Concludes name answer (verdict name timeout (.settled (shown answer))) := by
    obtain ⟨settled, reason, told⟩ := verdict_of_unwanted name timeout h
    rw [told]
    exact ⟨settled, .astray reason h⟩
  cases proper with
  | @described d status described =>
    by_cases asked : status = "CREATE_COMPLETE" ∨ status = "UPDATE_COMPLETE"
    · obtain ⟨settled, told⟩ := verdict_of_converged name timeout described asked
      rw [told]
      exact ⟨settled, .converged described asked⟩
    · obtain ⟨create, update⟩ := not_or.mp asked
      exact unwanted (.settled described (fun working => ends (.working described working))
        create update)
  | missing none => exact unwanted (.missing none)
  | @refused e code of_code =>
    refine unwanted (.unknown of_code fun mem => ends (.throttled ?_ mem))
    cases told : e.code with
    | some d => rw [← of_code, told, Option.getD_some]
    | none =>
      rw [told] at of_code
      cases of_code
      exact absurd mem (by decide)

section

variable [Field K] [LinearOrder K] {start pause : K} {limit : Time K} {region : Datum}
  {timeout interval : Number}

/-- The first answer that is the end decides a wait, unless one before it leaves no time for
another look: then the wait is given up.  Answers that are not the end may be replaced by others
of the same latency. -/
theorem waited_by_first_end_or_deadline (proper : ∀ k, Proper (replies k).answer)
    (of_timeout : (Seconds.ofNumber timeout : Except Fault (Time K)) = .ok limit)
    (of_interval : (Seconds.ofNumber interval : Except Fault (Time K)) = .ok (.exact pause)) :
    (∀ n, IsLeast {k | ¬Unsettled (replies k).answer} n →
      (∀ m, limit ≤ .exact (elapsed replies pause m + pause) → n ≤ m) →
      ∀ looks > n, ∃ result,
        (waited replies looks region name timeout interval start).1 = some result ∧
          Concludes name (replies n).answer result) ∧
    (∀ m, IsLeast {k | limit ≤ .exact (elapsed replies pause k + pause)} m →
      (∀ n, ¬Unsettled (replies n).answer → m < n) →
      ∀ looks > m, (waited replies looks region name timeout interval start).1 =
        some (.error (.stackTimeout (.text name) (.ofNumber timeout)))) ∧
    ∀ replies' : ℕ → Reply K, (∀ k, (replies' k).latency = (replies k).latency) →
      (∀ k, (replies' k).answer = (replies k).answer ∨
        Unsettled (replies' k).answer ∧ Unsettled (replies k).answer) →
      ∀ looks, waited replies' looks region name timeout interval start =
        waited replies looks region name timeout interval start := by
  refine ⟨fun n least first looks enough => ?_, fun m least first looks enough => ?_,
    fun replies' latency answer looks => ?_⟩
  · have onward : ∀ j < n, GoesOn replies limit pause j := fun j less =>
      ⟨not_not.mp fun ends => less.not_ge (least.2 ends), fun late => less.not_ge (first j late)⟩
    obtain ⟨settled, concludes⟩ := (proper n).concludes name timeout least.1
    rw [waited_settled of_timeout of_interval onward settled enough]
    exact ⟨_, rfl, concludes⟩
  · have onward : ∀ j < m, GoesOn replies limit pause j := fun j less =>
      ⟨not_not.mp fun ends => less.not_gt (first j ends), fun late => less.not_ge (least.2 late)⟩
    have unsettled : Unsettled (replies m).answer :=
      not_not.mp fun ends => lt_irrefl m (first m ends)
    rw [waited_timedOut of_timeout of_interval onward unsettled least.1 enough]
  · rw [run_wait of_timeout of_interval, run_wait of_timeout of_interval,
      run_poll_congr latency answer]

end

/-- Replies that take a second each. -/
def secondEach (answer : ℕ → Except Error Datum) (k : ℕ) : Reply ℚ := ⟨answer k, 1⟩

theorem elapsed_secondEach (answer : ℕ → Except Error Datum) (pause : ℚ) (k : ℕ) :
    elapsed (secondEach answer) pause k = k + 1 + k * pause := by
  simp [elapsed, secondEach]

/-- Looks at a stack that is created: it is being worked on, then the look is put off, then it is
as asked for. -/
def creation : ℕ → Except Error Datum
  | 0 => described "CREATE_IN_PROGRESS"
  | 1 => refusal "Throttling" "later"
  | _ => described "CREATE_COMPLETE"

theorem ofNumber_ten :
    (Seconds.ofNumber (.whole 10) : Except Fault (Time ℚ)) = .ok (.exact 10) := by
  rw [Time.ofNumber_of_finite false 5629499534213120 (-49) (by decide +kernel)]
  norm_num

theorem ofNumber_three :
    (Seconds.ofNumber (.whole 3) : Except Fault (Time ℚ)) = .ok (.exact 3) := by
  rw [Time.ofNumber_of_finite false 6755399441055744 (-51) (by decide +kernel)]
  norm_num

/-- An answer in time behind which there is none left for another look is the result, and a stack
that is being created for longer is given up. -/
theorem creation_in_ten_seconds :
    (∃ result, (waited (secondEach creation) 3 .null "stack" (.whole 10) (.whole 3) 0).1 =
        some result ∧ Concludes "stack" (described "CREATE_COMPLETE") result) ∧
      (waited (secondEach fun _ => described "CREATE_IN_PROGRESS") 3 .null "stack" (.whole 10)
          (.whole 3) 0).1 =
        some (.error (.stackTimeout (.text "stack") (.whole 10))) := by
  have working : Unsettled (described "CREATE_IN_PROGRESS") :=
    .working (describes_described rfl) (by decide)
  have late {answer : ℕ → Except Error Datum} {k : ℕ} :
      (Time.exact (10 : ℚ) ≤ .exact (elapsed (secondEach answer) 3 k + 3)) ↔ 2 ≤ k := by
    have whole : (k : ℚ) + 1 + k * 3 + 3 = ((4 * k + 4 : ℕ) : ℚ) := by push_cast; ring
    rw [elapsed_secondEach, whole, Time.exact_le, Nat.ofNat_le_cast]
    omega
  constructor
  · have proper (k : ℕ) : Proper (secondEach creation k).answer := by
      match k with
      | 0 => exact .described (describes_described rfl)
      | 1 => exact @Proper.refused _ "Throttling" rfl
      | k + 2 => exact .described (describes_described rfl)
    have settled : ¬Unsettled (described "CREATE_COMPLETE") := by
      rw [← pending_iff]
      decide
    refine (waited_by_first_end_or_deadline proper ofNumber_ten ofNumber_three).1 2 ⟨settled, ?_⟩
      (fun m => late.mp) 3 (by decide)
    intro k ends
    match k with
    | 0 => exact absurd working ends
    | 1 => exact absurd (@Unsettled.throttled _ "Throttling" rfl (by decide)) ends
    | k + 2 => omega
  · have proper (k : ℕ) : Proper (secondEach (fun _ => described "CREATE_IN_PROGRESS") k).answer :=
      .described (describes_described rfl)
    exact (waited_by_first_end_or_deadline proper ofNumber_ten ofNumber_three).2.1 2
      ⟨late.mpr le_rfl, fun k => late.mp⟩ (fun n ends => absurd working ends) 3 (by decide)

/-! ## Never beyond the deadline -/

section

variable [Field K] [LinearOrder K] [IsStrictOrderedRing K] [FloorSemiring K] {start limit pause : K}

/-- What is done in a wait is done before its deadline: no sleep goes up to it, and no look but
the first one begins behind it. -/
structure WithinDeadline (replies : ℕ → Reply K) (name : String) (start limit pause : K)
    (looks : ℕ) (w : Watch K) : Prop where
  /-- Every sleep lasts as long as asked for and ends before the deadline. -/
  sleeps : ∀ sleep ∈ w.sleeps, sleep.duration = .exact pause ∧
    ∃ t, sleep.time = .exact (start + t) ∧ t + pause < limit
  /-- All calls look at the stack. -/
  looksOnly : ∀ call ∈ w.calls,
    call.method = "describe_stacks" ∧ call.arguments = [("StackName", .text name)]
  /-- All looks but the first one begin before the deadline. -/
  looksLater : ∀ call ∈ w.calls.tail, ∃ t, call.time = .exact (start + t) ∧ t < limit
  /-- The sleeps and the answers before them take less than the time there is. -/
  spent : 1 ≤ w.sleeps.length → w.sleeps.length * pause +
    ∑ j ∈ Finset.range w.sleeps.length, (replies j).latency < limit
  /-- There are not more looks than pauses in the time there is, rounded up. -/
  few : 0 < pause → 0 < limit → w.calls.length ≤ ⌈limit / pause⌉₊
  /-- There is one look if a pause takes up all the time there is. -/
  single : limit ≤ pause → 0 < looks → w.calls.length = 1

/-- A wait keeps to its deadline, whatever is answered. -/
theorem waited_within_deadline {replies : ℕ → Reply K} (prompt : ∀ k, 0 ≤ (replies k).latency)
    {timeout interval : Number}
    (of_timeout : (Seconds.ofNumber timeout : Except Fault (Time K)) = .ok (.exact limit))
    (of_interval : (Seconds.ofNumber interval : Except Fault (Time K)) = .ok (.exact pause))
    (looks : ℕ) (region : Datum) (name : String) (start : K) :
    WithinDeadline replies name start limit pause looks
      (waited replies looks region name timeout interval start).2 := by
  obtain ⟨k, c, onward, most, one, sleeps, calls⟩ :=
    waited_history of_timeout of_interval looks region name start
  generalize (waited replies looks region name timeout interval start).2 = w at sleeps calls ⊢
  have left (j : ℕ) (before_k : j < k) : elapsed replies pause j + pause < limit :=
    not_le.mp (onward j before_k).2
  have number : w.sleeps.length = k := by rw [sleeps, List.length_map, List.length_range]
  -- the last sleep ends in time, and all that was before it is the sum
  have spent (slept : 1 ≤ k) :
      k * pause + ∑ j ∈ Finset.range k, (replies j).latency < limit := by
    obtain ⟨j, rfl⟩ := Nat.exists_eq_add_of_le' slept
    have last := left j j.lt_succ_self
    rwa [elapsed_add_pause, opening, add_comm] at last
  refine ⟨?_, ?_, ?_, number ▸ spent, ?_, ?_⟩
  · rw [sleeps, List.forall_mem_map]
    intro j mem
    exact ⟨rfl, _, rfl, left j (List.mem_range.mp mem)⟩
  · rw [calls, List.forall_mem_map]
    exact fun j _ => ⟨rfl, rfl⟩
  · rw [calls]
    cases c with
    | zero =>
      intro call mem
      cases mem
    | succ c =>
      rw [List.range_succ_eq_map, List.map_cons, List.tail_cons, List.map_map, List.forall_mem_map]
      intro j mem
      refine ⟨_, rfl, ?_⟩
      rw [← elapsed_add_pause]
      exact left j (by have := List.mem_range.mp mem; omega)
  · intro pauses time
    rw [calls, List.length_map, List.length_range]
    refine most.trans (Nat.lt_ceil.mpr ?_)
    rw [lt_div_iff₀ pauses]
    rcases Nat.eq_zero_or_pos k with rfl | slept
    · rwa [Nat.cast_zero, zero_mul]
    · have taken : 0 ≤ ∑ j ∈ Finset.range k, (replies j).latency :=
        Finset.sum_nonneg fun j _ => prompt j
      linarith [spent slept]
  · intro short some_look
    have none : k = 0 := by
      by_contra slept
      have first := left 0 (Nat.pos_of_ne_zero slept)
      have opens : elapsed replies pause 0 = (replies 0).latency := by simp [elapsed]
      rw [opens] at first
      linarith [prompt 0]
    rw [calls, List.length_map, List.length_range]
    have := one some_look
    omega

end

/-- A wait of ten seconds with pauses of three takes at most four looks. -/
theorem ten_seconds_suffice :
    let w := (waited (secondEach fun _ => described "CREATE_IN_PROGRESS") 9 .null "stack"
      (.whole 10) (.whole 3) 0).2
    WithinDeadline (secondEach fun _ => described "CREATE_IN_PROGRESS") "stack" 0 10 3 9 w ∧
      w.calls.length ≤ 4 := by
  have prompt (k : ℕ) : 0 ≤ (secondEach (fun _ => described "CREATE_IN_PROGRESS") k).latency :=
    zero_le_one
  have within := waited_within_deadline prompt ofNumber_ten ofNumber_three 9 .null "stack" 0
  refine ⟨within, (within.few (by norm_num) (by norm_num)).trans (Nat.ceil_le.mpr ?_)⟩
  norm_num

end NodePools.Aws.Stacks
