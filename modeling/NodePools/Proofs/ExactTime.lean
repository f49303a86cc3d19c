import Mathlib.Algebra.Order.Field.Basic
import Mathlib.Tactic.NormNum
import NodePools.Aws.Client
import NodePools.Proofs.Trace

/-!
# Exact time

Time counted in an ordered field, so that sums and differences of seconds are not rounded.  A
number of the settings may be any double, so that beside the exact times there are the two
infinite ones and what is not a number, which no time compares with.  A double stands for what
its bits say (`Time.ofFloat`), and a whole number for the double nearest to it.

`timed` is a world with a clock that only goes on in calls, for as long as each answer takes,
and in sleep, for exactly as long as asked for.
-/

namespace NodePools.Aws

open Decimal (Binary64)

/-- A time in seconds. -/
inductive Time (K : Type) where
  | exact (t : K)
  | infinite (negative : Bool)
  | notANumber

namespace Time

variable {K : Type}

/-- The sum of two times.  Opposite infinite times have none. -/
def add [Add K] : Time K → Time K → Time K
  | .exact a, .exact b => .exact (a + b)
  | .infinite m, .infinite n => if m = n then .infinite m else .notANumber
  | .infinite m, .exact _ => .infinite m
  | .exact _, .infinite n => .infinite n
  | .notANumber, _ => .notANumber
  | _, .notANumber => .notANumber

/-- A time with the other sign. -/
def neg [Neg K] : Time K → Time K
  | .exact a => .exact (-a)
  | .infinite m => .infinite !m
  | .notANumber => .notANumber

/-- Whether a time is not after another one. -/
def le [LE K] : Time K → Time K → Prop
  | .exact a, .exact b => a ≤ b
  | .infinite m, .infinite n => n ≤ m
  | .infinite m, .exact _ => m = true
  | .exact _, .infinite n => n = false
  | .notANumber, _ => False
  | _, .notANumber => False

instance [Add K] : Add (Time K) := ⟨add⟩
instance [Add K] [Neg K] : Sub (Time K) := ⟨fun a b => add a (neg b)⟩
instance [LE K] : LE (Time K) := ⟨le⟩
instance [LE K] : LT (Time K) := ⟨fun a b => a ≤ b ∧ ¬b ≤ a⟩

instance [LE K] [DecidableLE K] : DecidableLE (Time K)
  | .exact a, .exact b => inferInstanceAs (Decidable (a ≤ b))
  | .infinite m, .infinite n => inferInstanceAs (Decidable (n ≤ m))
  | .infinite m, .exact _ => inferInstanceAs (Decidable (m = true))
  | .exact _, .infinite n => inferInstanceAs (Decidable (n = false))
  | .notANumber, .exact _ | .notANumber, .infinite _ | .notANumber, .notANumber
  | .exact _, .notANumber | .infinite _, .notANumber => inferInstanceAs (Decidable False)

instance [LE K] [DecidableLE K] : DecidableLT (Time K) :=
  fun a b => inferInstanceAs (Decidable (a ≤ b ∧ ¬b ≤ a))

/-- The time that a double stands for. -/
def ofFloat [DivisionRing K] (x : Float) : Time K :=
  match Binary64.ofFloat x with
  | .finite negative mantissa exponent =>
    .exact ((if negative then -1 else 1) * mantissa * (2 : K) ^ exponent)
  | .infinite negative => .infinite negative
  | .notANumber => .notANumber

theorem ofFloat_of_finite [DivisionRing K] {x : Float} {negative : Bool} {mantissa : ℕ}
    {exponent : ℤ} (h : Binary64.ofFloat x = .finite negative mantissa exponent) :
    (ofFloat x : Time K) =
      .exact ((if negative then -1 else 1) * mantissa * (2 : K) ^ exponent) := by
  rw [ofFloat, h]

section

variable [Field K] [LinearOrder K]

instance : Seconds (Time K) where
  ofNumber n :=
    match n.toFloat? with
    | some x => .ok (ofFloat x)
    | none => .error .wholeTooLarge
  decideLe := inferInstance
  decideLt := inferInstance

theorem ofNumber_real (x : Float) :
    (Seconds.ofNumber (.real x) : Except Fault (Time K)) = .ok (ofFloat x) := rfl

theorem ofNumber_of_finite {n : Number} (negative : Bool) (mantissa : ℕ) (exponent : ℤ)
    (h : n.toFloat?.map Binary64.ofFloat = some (.finite negative mantissa exponent)) :
    (Seconds.ofNumber n : Except Fault (Time K)) =
      .ok (.exact ((if negative then -1 else 1) * mantissa * (2 : K) ^ exponent)) := by
  obtain ⟨x, real, parts⟩ := Option.map_eq_some_iff.mp h
  rw [← ofFloat_of_finite parts]
  simp only [Seconds.ofNumber, real]

/-- A number that stands for a time can be told in digits. -/
theorem wholeText?_of_ofNumber {n : Number} {t : Time K}
    (h : (Seconds.ofNumber n : Except Fault (Time K)) = .ok t) : n.wholeText?.isSome := by
  cases real : n.toFloat? with
  | some x => rw [Number.wholeText?, real, Option.map_some, Option.isSome_some]
  | none =>
    simp only [Seconds.ofNumber, real] at h
    cases h

end

@[simp] theorem exact_add [Add K] (a b : K) : exact a + exact b = exact (a + b) := rfl

@[simp] theorem exact_sub [AddGroup K] (a b : K) : exact a - exact b = exact (a - b) :=
  congrArg exact (sub_eq_add_neg a b).symm

@[simp] theorem exact_le [LE K] {a b : K} : exact a ≤ exact b ↔ a ≤ b := .rfl

@[simp] theorem exact_lt [Preorder K] {a b : K} : exact a < exact b ↔ a < b :=
  lt_iff_le_not_ge.symm

end Time

/-! ## A world with a clock -/

/-- An answer to a call, and how long it takes. -/
structure Reply (K : Type) where
  answer : Except Error Datum
  latency : K

/-- A call that was made, with the time at which it began. -/
structure Called (K : Type) where
  time : Time K
  method : String
  arguments : Fields Datum

/-- A sleep, with the time at which it began. -/
structure Slept (K : Type) where
  time : Time K
  duration : Time K

/-- What a world with a clock keeps: the time, and the calls and the sleeps so far, in order. -/
@[ext]
structure Watch (K : Type) where
  clock : Time K
  calls : List (Called K)
  sleeps : List (Slept K)

/-- A world at a time, with nothing done yet. -/
def Watch.fresh {K : Type} (start : K) : Watch K := ⟨.exact start, [], []⟩

@[simp] theorem Watch.calls_fresh {K : Type} (start : K) : (Watch.fresh start).calls = [] := rfl

section

variable {K : Type} [Add K]

/-- A call is made. -/
def Watch.call (w : Watch K) (latency : K) (method : String) (arguments : Fields Datum) : Watch K :=
  ⟨w.clock + .exact latency, w.calls ++ [⟨w.clock, method, arguments⟩], w.sleeps⟩

/-- Time passes in sleep. -/
def Watch.sleep (w : Watch K) (duration : Time K) : Watch K :=
  ⟨w.clock + duration, w.calls, w.sleeps ++ [⟨w.clock, duration⟩]⟩

/-- The world that gives its replies one after the other, a call each.  There are no pages. -/
def timed (replies : ℕ → Reply K) : Handler (Client (Time K)) (Watch K)
  | .call _ method arguments, w =>
    ((replies w.calls.length).answer, w.call (replies w.calls.length).latency method arguments)
  | .now, w => (w.clock, w)
  | .sleep duration, w => ((), w.sleep duration)
  | .page .., w => (.ok none, w)
  | .connect .., w | .reuse .., w | .paginate .., w | .waiter .., w | .log _, w => ((), w)

end

end NodePools.Aws
