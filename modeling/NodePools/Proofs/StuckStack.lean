import Mathlib.Algebra.Order.Archimedean.Basic
import Mathlib.Algebra.Order.BigOperators.Group.Finset
import Mathlib.Data.Rat.Floor
import Mathlib.Tactic.Linarith
import NodePools.Proofs.ConfigErrors
import NodePools.Proofs.TimedWait

/-!
# A stack that is never done

Settings may give any number as the time to wait for a stack and as the pause between two looks.
On a stack that is worked on for ever, a wait is given up at once if the pause takes up the time,
and after finitely many looks if the pause is positive and the time is not infinite.  In all
other cases there are latencies with which it never ends (`gives_up_iff`): without a pause and
with answers that take no time the clock stands still, and no time comes up to an infinite one or
to what is not a number.
-/

namespace NodePools.Aws

namespace Time

variable {K : Type} [Field K] {limit pause : Time K}

theorem add_exact_zero (t : Time K) : t + exact 0 = t := by
  cases t with
  | exact a => exact congrArg exact (add_zero a)
  | _ => rfl

theorem exact_zero_add (t : Time K) : exact 0 + t = t := by
  cases t with
  | exact a => exact congrArg exact (zero_add a)
  | _ => rfl

/-- A time that is not exact takes up what is added to it. -/
theorem add_of_not_exact (h : ∀ a, pause ≠ exact a) (a : K) :
    exact a + pause = pause ∧ pause - exact a = pause ∧ pause + pause = pause := by
  cases pause with
  | exact b => exact absurd rfl (h b)
  | infinite m => exact ⟨rfl, rfl, if_pos rfl⟩
  | notANumber => exact ⟨rfl, rfl, rfl⟩

variable [LinearOrder K]

/-- A time that is not infinite passes in pauses, unless one pause takes it up. -/
theorem finite_of_lt (pauses : exact 0 < pause) (ends : limit < infinite false)
    (left : ¬limit ≤ pause) : ∃ a b, limit = exact a ∧ pause = exact b ∧ 0 < b := by
  cases limit with
  | exact a =>
    cases pause with
    | exact b => exact ⟨a, b, rfl, rfl, exact_lt.mp pauses⟩
    | infinite m => exact absurd pauses.1 left
    | notANumber => cases pauses.1
  | infinite m =>
    cases m with
    | false => exact absurd ends.1 ends.2
    | true =>
      cases pause with
      | exact b => exact absurd rfl left
      | infinite n => exact absurd (Bool.le_true n) left
      | notANumber => cases pauses.1
  | notANumber => cases ends.1

variable [IsStrictOrderedRing K]

/-- A pause that takes up the time still does so later. -/
theorem le_exact_add {t : K} (later : 0 ≤ t) (h : limit ≤ pause) : limit ≤ exact t + pause := by
  cases pause with
  | exact a =>
    cases limit with
    | exact b => exact exact_le.mpr (le_add_of_nonneg_of_le later h)
    | infinite m => exact h
    | notANumber => exact h
  | infinite m => exact h
  | notANumber => exact h

/-- A time that neither a pause takes up nor pauses come up to is not taken up by any number of
them. -/
theorem not_le_exact {b : K} (left : ¬limit ≤ exact b)
    (stays : ¬(exact 0 < exact b ∧ limit < infinite false)) (k : ℕ) :
    ¬limit ≤ exact (k * b + b) := by
  cases limit with
  | exact a =>
    have still : b ≤ 0 := not_lt.mp fun pauses => stays ⟨exact_lt.mpr pauses, rfl, nofun⟩
    have less : k * b ≤ 0 := mul_nonpos_of_nonneg_of_nonpos k.cast_nonneg still
    exact fun taken => left (exact_le.mpr ((exact_le.mp taken).trans (by linarith)))
  | infinite m => exact left
  | notANumber => exact left

end Time

namespace Stacks

variable {K : Type} [Field K] {replies : ℕ → Reply K} {name : String} {looks : ℕ} {start : K}
  {limit pause : Time K}

/-- An answer that shows a stack being worked on. -/
def InProgress (answer : Except Error Datum) : Prop :=
  ∃ d status, answer = .ok d ∧ Describes d status ∧ "_IN_PROGRESS".toList <:+ status.toList

theorem InProgress.unsettled {answer : Except Error Datum} (h : InProgress answer) :
    Unsettled answer := by
  obtain ⟨d, status, rfl, describes, ends⟩ := h
  exact .working describes ends

/-! ## Waits that never end -/

/-- Replies that take no time and show a stack being worked on for ever. -/
def stuck (_ : ℕ) : Reply K := ⟨described "UPDATE_IN_PROGRESS", 0⟩

theorem inProgress_stuck (k : ℕ) : InProgress (stuck k : Reply K).answer :=
  ⟨_, _, rfl, describes_described rfl, by decide⟩

theorem clock_looked_stuck (w : Watch K) : (looked stuck name w).clock = w.clock :=
  Time.add_exact_zero w.clock

variable [LinearOrder K]

/-- Looks that always find the stack unsettled and time left never come to an end. -/
theorem run_poll_forever (goes : Watch K → Prop)
    (onward : ∀ w, goes w → Unsettled (replies w.calls.length).answer ∧
      ¬limit ≤ ((looked replies name w).clock - .exact start) + pause ∧
      goes ((looked replies name w).sleep pause)) {w : Watch K} (going : goes w) :
    ((poll name (.exact start) limit pause looks).run (timed replies) w).1 = none := by
  induction looks generalizing w with
  | zero => rfl
  | succ looks ih =>
    obtain ⟨unsettled, left, later⟩ := onward w going
    rw [run_poll_succ, pending_of_unsettled unsettled]
    dsimp only
    rw [if_neg left]
    exact ih later

variable [IsStrictOrderedRing K]

theorem run_poll_stuck (left : ¬limit ≤ pause)
    (stays : ¬(.exact 0 < pause ∧ limit < .infinite false)) :
    ((poll name (.exact start) limit pause looks).run (timed stuck) (.fresh start)).1 = none := by
  by_cases exact : ∃ b, pause = .exact b
  · -- the clock stays a whole number of pauses behind the start
    obtain ⟨b, rfl⟩ := exact
    refine run_poll_forever (fun w => ∃ k : ℕ, w.clock = .exact (start + k * b)) ?_ ⟨0, ?_⟩
    · rintro w ⟨k, clock⟩
      refine ⟨(inProgress_stuck _).unsettled, ?_, k + 1, ?_⟩
      · rw [clock_looked_stuck, clock, Time.exact_sub, add_sub_cancel_left, Time.exact_add]
        exact Time.not_le_exact left stays k
      · show (looked stuck name w).clock + .exact b = _
        rw [clock_looked_stuck, clock, Time.exact_add, Nat.cast_succ, add_mul, one_mul, add_assoc]
    · show Time.exact start = _
      rw [Nat.cast_zero, zero_mul, add_zero]
  · -- the first sleep takes up the clock, which no later one changes
    obtain ⟨adds, subs, doubles⟩ := Time.add_of_not_exact (not_exists.mp exact) start
    refine run_poll_forever (fun w => w.clock = .exact start ∨ w.clock = pause) ?_ (.inl rfl)
    rintro w (clock | clock)
    · refine ⟨(inProgress_stuck _).unsettled, ?_, .inr ?_⟩
      · rwa [clock_looked_stuck, clock, Time.exact_sub, sub_self, Time.exact_zero_add]
      · show (looked stuck name w).clock + pause = pause
        rw [clock_looked_stuck, clock, adds]
    · refine ⟨(inProgress_stuck _).unsettled, ?_, .inr ?_⟩
      · rwa [clock_looked_stuck, clock, subs, doubles]
      · show (looked stuck name w).clock + pause = pause
        rw [clock_looked_stuck, clock, doubles]

/-! ## Waits that are given up -/

/-- A wait in which a pause takes up the time is given up behind the first look. -/
theorem run_poll_once (prompt : 0 ≤ (replies 0).latency) (unsettled : Unsettled (replies 0).answer)
    (short : limit ≤ pause) :
    ((poll name (.exact start) limit pause (looks + 1)).run (timed replies) (.fresh start)).1 =
      some .timedOut := by
  have since : (looked replies name (.fresh start)).clock - .exact start + pause =
      .exact (replies 0).latency + pause := by
    show Time.exact (start + (replies 0).latency) - .exact start + pause = _
    rw [Time.exact_sub, add_sub_cancel_left]
  rw [run_poll_succ, since, Watch.calls_fresh, List.length_nil, pending_of_unsettled unsettled]
  dsimp only
  rw [if_pos (Time.le_exact_add prompt short)]

/-- A wait with a positive pause comes to a look behind which the time is up. -/
theorem exists_late [Archimedean K] (prompt : ∀ k, 0 ≤ (replies k).latency) {b : K}
    (pauses : 0 < b) (a : K) : ∃ m, a ≤ elapsed replies b m + b := by
  obtain ⟨m, reached⟩ := Archimedean.arch a pauses
  refine ⟨m, ?_⟩
  have taken : 0 ≤ ∑ j ∈ Finset.range (m + 1), (replies j).latency :=
    Finset.sum_nonneg fun j _ => prompt j
  rw [nsmul_eq_mul] at reached
  rw [elapsed]
  linarith

theorem waited_once {timeout interval : Float} {region : Datum}
    (prompt : 0 ≤ (replies 0).latency) (unsettled : Unsettled (replies 0).answer)
    (short : (Time.ofFloat timeout : Time K) ≤ .ofFloat interval) (enough : 1 ≤ looks) :
    (waited replies looks region name (.real timeout) (.real interval) start).1 =
      some (.error (.stackTimeout (.text name) (.ofNumber (.real timeout)))) := by
  obtain ⟨rest, rfl⟩ := Nat.exists_eq_add_of_le' enough
  rw [run_wait (Time.ofNumber_real timeout) (Time.ofNumber_real interval),
    ← timedOut_of_wholeText rfl]
  exact congrArg (Option.map _) (run_poll_once prompt unsettled short)

theorem waited_in_pauses [Archimedean K] {timeout interval : Float} {region : Datum} {a b : K}
    (of_timeout : Time.ofFloat timeout = .exact a) (of_interval : Time.ofFloat interval = .exact b)
    (pauses : 0 < b) (prompt : ∀ k, 0 ≤ (replies k).latency)
    (unsettled : ∀ k, Unsettled (replies k).answer) :
    ∃ polls, ∀ looks ≥ polls,
      (waited replies looks region name (.real timeout) (.real interval) start).1 =
        some (.error (.stackTimeout (.text name) (.ofNumber (.real timeout)))) := by
  classical
  have late := exists_late prompt pauses a
  refine ⟨Nat.find late + 1, fun looks enough => ?_⟩
  rw [waited_timedOut (congrArg Except.ok of_timeout) (congrArg Except.ok of_interval)
    (fun j earlier => ⟨unsettled j, Nat.find_min late earlier⟩) (unsettled _) (Nat.find_spec late)
    enough]

/-! ## Which settings let a wait be given up -/

theorem seconds_of_ofTable {homes : Path.Homes} {data : Fields Datum} {s : Settings}
    (accepted : Settings.ofTable homes data = .ok s) :
    Settings.seconds data "wait_timeout" 900 = .ok s.waitTimeout ∧
      Settings.seconds data "wait_interval" 15 = .ok s.waitInterval := by
  rw [Settings.ofTable] at accepted
  dsimp only at accepted
  split at accepted
  · cases accepted
  · split at accepted
    · cases accepted
    · obtain ⟨_, -, accepted⟩ := bind_eq_ok.mp accepted
      obtain ⟨_, -, accepted⟩ := bind_eq_ok.mp accepted
      obtain ⟨timeout, of_timeout, accepted⟩ := bind_eq_ok.mp accepted
      obtain ⟨interval, of_interval, accepted⟩ := bind_eq_ok.mp accepted
      cases accepted
      exact ⟨Config.read_eq_ok.mp of_timeout, Config.read_eq_ok.mp of_interval⟩

/-- A wait for a stack that is worked on for ever is given up after finitely many looks, whatever
latencies the answers have. -/
def GivesUp (K : Type) [Field K] [LinearOrder K] (region : Datum) (name : String)
    (timeout interval : Float) : Prop :=
  ∀ (replies : ℕ → Reply K) (start : K), (∀ k, 0 ≤ (replies k).latency) →
    (∀ k, InProgress (replies k).answer) → ∃ polls, ∀ looks ≥ polls,
      (waited replies looks region name (.real timeout) (.real interval) start).1 =
        some (.error (.stackTimeout (.text name) (.ofNumber (.real timeout))))

theorem waited_stuck {timeout interval : Float}
    (left : ¬(Time.ofFloat timeout : Time K) ≤ .ofFloat interval)
    (stays : ¬((.exact 0 : Time K) < .ofFloat interval ∧
      (Time.ofFloat timeout : Time K) < .infinite false)) (looks : ℕ) (region : Datum)
    (name : String) (start : K) :
    (waited stuck looks region name (.real timeout) (.real interval) start).1 = none := by
  rw [run_wait (Time.ofNumber_real timeout) (Time.ofNumber_real interval)]
  exact congrArg (Option.map _) (run_poll_stuck left stays)

/-- The settings of a table let every wait for a stack that is worked on for ever be given up,
whatever latencies its answers have, if and only if a pause takes up the time, or there is a pause
and the time is not infinite. -/
theorem gives_up_iff [Archimedean K] {homes : Path.Homes} {data : Fields Datum} {s : Settings}
    (accepted : Settings.ofTable homes data = .ok s) (region : Datum) (name : String) :
    ∃ timeout interval, Settings.seconds data "wait_timeout" 900 = .ok timeout ∧
      Settings.seconds data "wait_interval" 15 = .ok interval ∧
      (GivesUp K region name s.waitTimeout s.waitInterval ↔
        (Time.ofFloat timeout : Time K) ≤ .ofFloat interval ∨
          (.exact 0 : Time K) < .ofFloat interval ∧
            (Time.ofFloat timeout : Time K) < .infinite false) := by
  obtain ⟨of_timeout, of_interval⟩ := seconds_of_ofTable accepted
  refine ⟨_, _, of_timeout, of_interval, ?_, ?_⟩
  · intro ends
    by_contra stays
    obtain ⟨left, stays⟩ := not_or.mp stays
    obtain ⟨polls, ended⟩ := ends stuck 0 (fun _ => le_rfl) inProgress_stuck
    have told := ended polls le_rfl
    rw [waited_stuck left stays] at told
    cases told
  · intro ends replies start prompt working
    have unsettled (k : ℕ) := (working k).unsettled
    by_cases short : (Time.ofFloat s.waitTimeout : Time K) ≤ .ofFloat s.waitInterval
    · exact ⟨1, fun looks enough => waited_once (prompt 0) (unsettled 0) short enough⟩
    · obtain ⟨pauses, finite⟩ := ends.resolve_left short
      obtain ⟨a, b, of_a, of_b, pos⟩ := Time.finite_of_lt pauses finite short
      exact waited_in_pauses of_a of_b pos prompt unsettled

theorem ofFloat_default_timeout : (Time.ofFloat 900 : Time ℚ) = .exact 900 := by
  have parts : Decimal.Binary64.ofFloat 900 = .finite false 7916483719987200 (-43) := by
    decide +kernel
  rw [Time.ofFloat_of_finite parts]
  norm_num

theorem ofFloat_default_interval : (Time.ofFloat 15 : Time ℚ) = .exact 15 := by
  have parts : Decimal.Binary64.ofFloat 15 = .finite false 8444249301319680 (-49) := by
    decide +kernel
  rw [Time.ofFloat_of_finite parts]
  norm_num

theorem exists_of_isSome {ε α : Type} {x : Except ε α} (h : x.toOption.isSome) :
    ∃ a, x = .ok a := by
  cases x with
  | error e => cases h
  | ok a => exact ⟨a, rfl⟩

/-- Settings that say nothing about time. -/
def untimed : Fields Datum := [("bucket", .text "b"), ("config_dir", .text "c")]

set_option maxRecDepth 100000 in
/-- With the time and the pause that are used if none is given, a wait is given up. -/
theorem untimed_gives_up :
    ∃ s, Settings.ofTable Config.alone untimed = .ok s ∧
      GivesUp ℚ .null "stack" s.waitTimeout s.waitInterval := by
  obtain ⟨s, accepted⟩ : ∃ s, Settings.ofTable Config.alone untimed = .ok s :=
    exists_of_isSome (by decide +kernel)
  obtain ⟨timeout, interval, of_timeout, of_interval, ends⟩ :=
    gives_up_iff (K := ℚ) accepted .null "stack"
  cases of_timeout
  cases of_interval
  refine ⟨s, accepted, ends.mpr (.inr ⟨?_, ?_⟩)⟩
  · rw [ofFloat_default_interval, Time.exact_lt]
    norm_num
  · rw [ofFloat_default_timeout]
    exact ⟨rfl, nofun⟩

set_option maxRecDepth 100000 in
/-- A pause of no time is accepted, and with it a wait for a stack that is worked on for ever does
not end if its answers take no time. -/
theorem no_pause_no_end :
    ∃ s, Settings.ofTable Config.alone (untimed ++ [("wait_interval", .whole 0)]) = .ok s ∧
      (∀ k, 0 ≤ (stuck k : Reply ℚ).latency) ∧ (∀ k, InProgress (stuck k : Reply ℚ).answer) ∧
      ∀ looks, (waited (stuck : ℕ → Reply ℚ) looks .null "stack" (.real s.waitTimeout)
        (.real s.waitInterval) 0).1 = none := by
  obtain ⟨s, accepted⟩ : ∃ s, Settings.ofTable Config.alone
      (untimed ++ [("wait_interval", .whole 0)]) = .ok s :=
    exists_of_isSome (by decide +kernel)
  obtain ⟨of_timeout, of_interval⟩ := seconds_of_ofTable accepted
  have pause : (Settings.seconds (untimed ++ [("wait_interval", .whole 0)]) "wait_interval" 15).map
      Decimal.Binary64.ofFloat = .ok (.finite false 0 (-1074)) := by
    decide +kernel
  rw [of_interval] at pause
  have still : (Time.ofFloat s.waitInterval : Time ℚ) = .exact 0 := by
    rw [Time.ofFloat_of_finite (Except.ok.inj pause)]
    norm_num
  have time : s.waitTimeout = 900 := (Except.ok.inj of_timeout).symm
  refine ⟨s, accepted, fun _ => le_rfl, inProgress_stuck, fun looks => ?_⟩
  refine waited_stuck ?_ ?_ looks .null "stack" 0
  · rw [still, time, ofFloat_default_timeout, Time.exact_le]
    norm_num
  · rw [still]
    exact fun pauses => lt_irrefl 0 (Time.exact_lt.mp pauses.1)

end Stacks
end NodePools.Aws
