import NodePools.Prog

/-!
# What a program asks

A run of a program is told by its trace: the requests it makes, in order, each
with the answer it got. `Prog.Runs` says which traces a program can have and
what it is done with after each; the answers in a trace are free, so a statement
about all traces of a program is a statement about every behaviour of the world.

A world that answers requests from a state of its own is a `Handler`. What
`Prog.run` computes under a handler is exactly a trace of the program that the
handler answers (`run_eq_some_iff`). `Prog.Cuts` says on which traces a program is
cut off instead (`run_eq_none_iff`); one that never is always comes to an end
(`Uncut.run`).
-/

namespace NodePools

/-- A request with the answer it got. -/
structure Exchange (S : Signature) where
  op : S.Op
  answer : S.Answer op

/-- A member of two lists, with what is around it, is one of the first or of the second. -/
theorem split_append {α : Type} {e : α} {front back first second : List α}
    (split : first ++ second = front ++ e :: back) :
    (∃ back', first = front ++ e :: back') ∨
      ∃ front', front = first ++ front' ∧ second = front' ++ e :: back := by
  rcases List.append_eq_append_iff.mp split with ⟨front', rfl, rest⟩ | ⟨back', rfl, rest⟩
  · exact .inr ⟨front', rfl, rest⟩
  · cases back' with
    | nil => exact .inr ⟨[], by rw [List.append_nil, List.append_nil], rest.symm⟩
    | cons e' back' =>
      obtain ⟨rfl, rfl⟩ := List.cons.inj rest
      exact .inl ⟨back', rfl⟩

/-- A world that answers requests from a state. -/
abbrev Handler (S : Signature) (σ : Type) := (op : S.Op) → σ → S.Answer op × σ

namespace Handler

variable {S : Signature} {σ : Type} {answer : Handler S σ}

/-- From the first state the world gives the answers of a trace, and comes to the
second. -/
inductive Plays (answer : Handler S σ) : σ → List (Exchange S) → σ → Prop
  | nil (s : σ) : Plays answer s [] s
  | cons {s s' : σ} {op : S.Op} {tr : List (Exchange S)} :
    Plays answer (answer op s).2 tr s' →
      Plays answer s (⟨op, (answer op s).1⟩ :: tr) s'

theorem plays_cons {s s' : σ} {op : S.Op} {r : S.Answer op} {tr : List (Exchange S)} :
    Plays answer s (⟨op, r⟩ :: tr) s' ↔
      r = (answer op s).1 ∧ Plays answer (answer op s).2 tr s' := by
  constructor
  · intro h
    cases h with
    | cons rest => exact ⟨rfl, rest⟩
  · rintro ⟨rfl, rest⟩
    exact .cons rest

theorem plays_append {s s' : σ} {tr₁ tr₂ : List (Exchange S)} :
    Plays answer s (tr₁ ++ tr₂) s' ↔
      ∃ mid, Plays answer s tr₁ mid ∧ Plays answer mid tr₂ s' := by
  induction tr₁ generalizing s with
  | nil =>
    constructor
    · intro h
      exact ⟨s, .nil s, h⟩
    · rintro ⟨mid, first, second⟩
      cases first
      exact second
  | cons e tr₁ ih =>
    constructor
    · intro h
      cases h with
      | cons rest =>
        obtain ⟨mid, first, second⟩ := ih.mp rest
        exact ⟨mid, .cons first, second⟩
    · rintro ⟨mid, first, second⟩
      cases first with
      | cons rest => exact .cons (ih.mpr ⟨mid, rest, second⟩)

/-- What is so of every exchange with a world is so of all that it answers. -/
theorem Plays.forall_mem {P : Exchange S → Prop} {s s' : σ} {tr : List (Exchange S)}
    (plays : Plays answer s tr s') (each : ∀ op s, P ⟨op, (answer op s).1⟩) : ∀ e ∈ tr, P e := by
  induction plays with
  | nil => exact nofun
  | cons _ ih => exact List.forall_mem_cons.mpr ⟨each _ _, ih⟩

/-- What a state shows after a trace is told by the trace, if each exchange tells what it does to
it. -/
theorem Plays.foldl_view {γ ω : Type} {f : Exchange S → Option γ} {put : ω → γ → ω} {view : σ → ω}
    {s s' : σ} {tr : List (Exchange S)} (plays : Plays answer s tr s')
    (each : ∀ op s, view (answer op s).2 =
      (f ⟨op, (answer op s).1⟩).elim (view s) (put (view s))) :
    view s' = (tr.filterMap f).foldl put (view s) := by
  induction plays with
  | nil s => rfl
  | @cons s s' op tr _ ih =>
    rw [ih, each op s]
    cases of_op : f ⟨op, (answer op s).1⟩ with
    | none => rw [List.filterMap_cons_none of_op, Option.elim_none]
    | some x => rw [List.filterMap_cons_some of_op, Option.elim_some, List.foldl_cons]

end Handler

namespace Prog

variable {S : Signature} {α β σ : Type}

/-- The program makes the requests of a trace, gets the answers in it, and is done
with a value. -/
inductive Runs : Prog S α → List (Exchange S) → α → Prop
  | done (a : α) : Runs (.done a) [] a
  | ask {op : S.Op} {next : S.Answer op → Prog S α} {tr : List (Exchange S)} {a : α}
    (r : S.Answer op) : Runs (next r) tr a → Runs (.ask op next) (⟨op, r⟩ :: tr) a

theorem runs_done {a b : α} {tr : List (Exchange S)} :
    Runs (.done a : Prog S α) tr b ↔ tr = [] ∧ b = a := by
  constructor
  · intro h
    cases h
    exact ⟨rfl, rfl⟩
  · rintro ⟨rfl, rfl⟩
    exact .done b

theorem runs_ask {op : S.Op} {next : S.Answer op → Prog S α} {tr : List (Exchange S)} {a : α} :
    Runs (.ask op next) tr a ↔ ∃ r rest, tr = ⟨op, r⟩ :: rest ∧ Runs (next r) rest a := by
  constructor
  · intro h
    cases h with
    | ask r rest => exact ⟨r, _, rfl, rest⟩
  · rintro ⟨r, rest, rfl, h⟩
    exact .ask r h

theorem runs_request {op : S.Op} {tr : List (Exchange S)} {r : S.Answer op} :
    Runs (request op) tr r ↔ tr = [⟨op, r⟩] := by
  constructor
  · intro h
    obtain ⟨r', rest, rfl, later⟩ := runs_ask.mp h
    obtain ⟨rfl, rfl⟩ := runs_done.mp later
    rfl
  · rintro rfl
    exact .ask r (.done r)

/-- A program that gets the answers of a script asks one thing only, and is done with one
value. -/
theorem Runs.unique {told : (op : S.Op) → S.Answer op} {p : Prog S α} {tr tr' : List (Exchange S)}
    {a a' : α} (run : Runs p tr a) (run' : Runs p tr' a')
    (heeds : ∀ e ∈ tr, e.answer = told e.op) (heeds' : ∀ e ∈ tr', e.answer = told e.op) :
    tr = tr' ∧ a = a' := by
  induction run generalizing tr' with
  | done a =>
    obtain ⟨rfl, rfl⟩ := runs_done.mp run'
    exact ⟨rfl, rfl⟩
  | ask r _ ih =>
    obtain ⟨r', rest, rfl, later⟩ := runs_ask.mp run'
    obtain ⟨here, after⟩ := List.forall_mem_cons.mp heeds
    obtain ⟨here', after'⟩ := List.forall_mem_cons.mp heeds'
    obtain rfl : r = r' := Eq.trans here here'.symm
    obtain ⟨rfl, rfl⟩ := ih later after after'
    exact ⟨rfl, rfl⟩

/-- Of two runs of a program, neither goes on where the other one ends. -/
theorem Runs.prefix_unique {p : Prog S α} {tr tr' more more' : List (Exchange S)} {a a' : α}
    (run : Runs p tr a) (run' : Runs p tr' a') (same : tr ++ more = tr' ++ more') :
    tr = tr' ∧ a = a' ∧ more = more' := by
  induction run generalizing tr' with
  | done a =>
    obtain ⟨rfl, rfl⟩ := runs_done.mp run'
    exact ⟨rfl, rfl, same⟩
  | ask r _ ih =>
    obtain ⟨r', rest, rfl, later⟩ := runs_ask.mp run'
    obtain ⟨here, rest_same⟩ := List.cons.inj same
    cases here
    obtain ⟨rfl, rfl, rfl⟩ := ih later rest_same
    exact ⟨rfl, rfl, rfl⟩

/-- What goes on with the result of a program makes its requests afterwards. -/
theorem runs_bind {p : Prog S α} {f : α → Prog S β} {tr : List (Exchange S)} {b : β} :
    Runs (p.bind f) tr b ↔
      ∃ tr₁ a tr₂, tr = tr₁ ++ tr₂ ∧ Runs p tr₁ a ∧ Runs (f a) tr₂ b := by
  induction p generalizing tr with
  | done a =>
    constructor
    · intro h
      exact ⟨[], a, tr, rfl, .done a, h⟩
    · rintro ⟨tr₁, a', tr₂, rfl, first, second⟩
      cases first
      exact second
  | ask op next ih =>
    constructor
    · intro h
      obtain ⟨r, rest, rfl, later⟩ := runs_ask.mp h
      obtain ⟨tr₁, a, tr₂, rfl, first, second⟩ := (ih r).mp later
      exact ⟨⟨op, r⟩ :: tr₁, a, tr₂, rfl, .ask r first, second⟩
    · rintro ⟨tr₁, a, tr₂, rfl, first, second⟩
      obtain ⟨r, rest, rfl, later⟩ := runs_ask.mp first
      exact .ask r ((ih r).mpr ⟨rest, a, tr₂, rfl, later, second⟩)
  | cut =>
    constructor
    · intro h
      cases h
    · rintro ⟨tr₁, a, tr₂, rfl, first, second⟩
      cases first

/-- To change the result of a program leaves what it asks as it is. -/
theorem runs_map {p : Prog S α} {f : α → β} {tr : List (Exchange S)} {b : β} :
    Runs (p.bind fun a => .done (f a)) tr b ↔ ∃ a, Runs p tr a ∧ b = f a := by
  rw [runs_bind]
  constructor
  · rintro ⟨tr₁, a, tr₂, rfl, first, second⟩
    obtain ⟨rfl, rfl⟩ := runs_done.mp second
    rw [List.append_nil]
    exact ⟨a, first, rfl⟩
  · rintro ⟨a, first, rfl⟩
    exact ⟨tr, a, [], (List.append_nil tr).symm, first, .done _⟩

/-- What goes on with the value of a program, and hands on its error, either fails with it or
makes its own requests afterwards. -/
theorem runs_bind_except {ε : Type} {p : Prog S (Except ε α)}
    {k : Except ε α → Prog S (Except ε β)} {f : α → Prog S (Except ε β)}
    (value : ∀ a, k (.ok a) = f a) (error : ∀ e, k (.error e) = .done (.error e))
    {tr : List (Exchange S)} {r : Except ε β} :
    Runs (p.bind k) tr r ↔
      (∃ e, r = .error e ∧ Runs p tr (.error e)) ∨
      ∃ tr₁ a tr₂, tr = tr₁ ++ tr₂ ∧ Runs p tr₁ (.ok a) ∧ Runs (f a) tr₂ r := by
  rw [runs_bind]
  constructor
  · rintro ⟨tr₁, a, tr₂, rfl, first, second⟩
    cases a with
    | error e =>
      rw [error] at second
      obtain ⟨rfl, rfl⟩ := runs_done.mp second
      rw [List.append_nil]
      exact .inl ⟨e, rfl, first⟩
    | ok a => exact .inr ⟨tr₁, a, tr₂, rfl, first, value a ▸ second⟩
  · rintro (⟨e, rfl, first⟩ | ⟨tr₁, a, tr₂, rfl, first, second⟩)
    · exact ⟨tr, .error e, [], (List.append_nil tr).symm, first, error e ▸ .done _⟩
    · exact ⟨tr₁, .ok a, tr₂, rfl, first, (value a).symm ▸ second⟩

/-- A handler runs a program to an end exactly along the traces of the program
that it answers. -/
theorem run_eq_some_iff {answer : Handler S σ} {p : Prog S α} {s s' : σ} {a : α} :
    p.run answer s = (some a, s') ↔ ∃ tr, Runs p tr a ∧ answer.Plays s tr s' := by
  induction p generalizing s with
  | done b =>
    constructor
    · intro h
      cases h
      exact ⟨[], .done a, .nil _⟩
    · rintro ⟨tr, run, plays⟩
      obtain ⟨rfl, rfl⟩ := runs_done.mp run
      cases plays
      rfl
  | ask op next ih =>
    constructor
    · intro h
      obtain ⟨tr, run, plays⟩ := (ih (answer op s).1).mp h
      exact ⟨_, .ask _ run, .cons plays⟩
    · rintro ⟨tr, run, plays⟩
      obtain ⟨r, rest, rfl, later⟩ := runs_ask.mp run
      cases plays with
      | cons plays => exact (ih _).mpr ⟨rest, later, plays⟩
  | cut =>
    constructor
    · intro h
      cases h
    · rintro ⟨tr, run, _⟩
      cases run

/-- What goes on with the result of a program is answered from where the program has left the
world, unless that is cut off. -/
theorem run_bind (answer : Handler S σ) (p : Prog S α) (f : α → Prog S β) (s : σ) :
    (p.bind f).run answer s =
      match p.run answer s with
      | (some a, mid) => (f a).run answer mid
      | (none, mid) => (none, mid) := by
  induction p generalizing s with
  | done a => rfl
  | ask op next ih => exact ih (answer op s).1 (answer op s).2
  | cut => rfl

/-- To change the result of a program leaves what it does to the world as it is. -/
theorem run_map (answer : Handler S σ) (p : Prog S α) (f : α → β) (s : σ) :
    (p.bind fun a => .done (f a)).run answer s = (p.run answer s).map (Option.map f) id := by
  rw [run_bind]
  rcases p.run answer s with ⟨_ | a, s'⟩
  all_goals rfl

/-- A run of a program that goes on with the result of another one is a run of the
first and then one of what goes on. -/
theorem run_bind_eq_some_iff {answer : Handler S σ} {p : Prog S α} {f : α → Prog S β} {s s' : σ}
    {b : β} :
    (p.bind f).run answer s = (some b, s') ↔
      ∃ a mid, p.run answer s = (some a, mid) ∧ (f a).run answer mid = (some b, s') := by
  induction p generalizing s with
  | done a =>
    constructor
    · intro h
      exact ⟨a, s, rfl, h⟩
    · rintro ⟨a', mid, first, second⟩
      cases first
      exact second
  | ask op next ih => exact ih (answer op s).1
  | cut =>
    constructor
    · intro h
      cases h
    · rintro ⟨a, mid, first, _⟩
      cases first

/-- The program makes the requests of a trace, gets the answers in it, and is cut off. -/
inductive Cuts : Prog S α → List (Exchange S) → Prop
  | cut : Cuts .cut []
  | ask {op : S.Op} {next : S.Answer op → Prog S α} {tr : List (Exchange S)} (r : S.Answer op) :
    Cuts (next r) tr → Cuts (.ask op next) (⟨op, r⟩ :: tr)

/-- A program that goes on with the result of another one is cut off there, or in what it asks
afterwards. -/
theorem cuts_bind {p : Prog S α} {f : α → Prog S β} {tr : List (Exchange S)} :
    Cuts (p.bind f) tr ↔
      Cuts p tr ∨ ∃ tr₁ a tr₂, tr = tr₁ ++ tr₂ ∧ Runs p tr₁ a ∧ Cuts (f a) tr₂ := by
  induction p generalizing tr with
  | done a =>
    constructor
    · intro h
      exact .inr ⟨[], a, tr, rfl, .done a, h⟩
    · rintro (here | ⟨tr₁, a', tr₂, rfl, first, second⟩)
      · cases here
      · cases first
        exact second
  | ask op next ih =>
    constructor
    · intro h
      cases h with
      | ask r later =>
        rcases (ih r).mp later with here | ⟨tr₁, a, tr₂, rfl, first, second⟩
        · exact .inl (.ask r here)
        · exact .inr ⟨⟨op, r⟩ :: tr₁, a, tr₂, rfl, .ask r first, second⟩
    · rintro (here | ⟨tr₁, a, tr₂, rfl, first, second⟩)
      · cases here with
        | ask r here => exact .ask r ((ih r).mpr (.inl here))
      · obtain ⟨r, rest, rfl, later⟩ := runs_ask.mp first
        exact .ask r ((ih r).mpr (.inr ⟨rest, a, tr₂, rfl, later, second⟩))
  | cut =>
    constructor
    · intro h
      cases h
      exact .inl .cut
    · rintro (here | ⟨tr₁, a, tr₂, rfl, first, -⟩)
      · cases here
        exact .cut
      · cases first

/-- To change the result of a program leaves it open where the program is cut off. -/
theorem cuts_map {p : Prog S α} {f : α → β} {tr : List (Exchange S)} :
    Cuts (p.bind fun a => .done (f a)) tr ↔ Cuts p tr := by
  rw [cuts_bind]
  refine or_iff_left ?_
  rintro ⟨tr₁, a, tr₂, rfl, -, second⟩
  cases second

/-- What goes on with the value of a program, and hands on its error, is cut off there, or in
what it asks afterwards. -/
theorem cuts_bind_except {ε : Type} {p : Prog S (Except ε α)}
    {k : Except ε α → Prog S (Except ε β)} {f : α → Prog S (Except ε β)}
    (value : ∀ a, k (.ok a) = f a) (error : ∀ e, k (.error e) = .done (.error e))
    {tr : List (Exchange S)} :
    Cuts (p.bind k) tr ↔
      Cuts p tr ∨ ∃ tr₁ a tr₂, tr = tr₁ ++ tr₂ ∧ Runs p tr₁ (.ok a) ∧ Cuts (f a) tr₂ := by
  rw [cuts_bind]
  refine or_congr_right ⟨?_, ?_⟩
  · rintro ⟨tr₁, r, tr₂, rfl, first, second⟩
    cases r with
    | error e =>
      rw [error] at second
      cases second
    | ok a => exact ⟨tr₁, a, tr₂, rfl, first, value a ▸ second⟩
  · rintro ⟨tr₁, a, tr₂, rfl, first, second⟩
    exact ⟨tr₁, .ok a, tr₂, rfl, first, (value a).symm ▸ second⟩

/-- A handler does not run a program to an end exactly along the traces that it answers and
on which the program is cut off. -/
theorem run_eq_none_iff {answer : Handler S σ} {p : Prog S α} {s s' : σ} :
    p.run answer s = (none, s') ↔ ∃ tr, Cuts p tr ∧ answer.Plays s tr s' := by
  induction p generalizing s with
  | done b =>
    constructor
    · intro h
      cases h
    · rintro ⟨tr, cuts, -⟩
      cases cuts
  | ask op next ih =>
    constructor
    · intro h
      obtain ⟨tr, cuts, plays⟩ := (ih (answer op s).1).mp h
      exact ⟨_, .ask _ cuts, .cons plays⟩
    · rintro ⟨tr, cuts, plays⟩
      cases cuts with
      | ask r later =>
      cases plays with
      | cons plays => exact (ih _).mpr ⟨_, later, plays⟩
  | cut =>
    constructor
    · intro h
      cases h
      exact ⟨[], .cut, .nil _⟩
    · rintro ⟨tr, cuts, plays⟩
      cases cuts
      cases plays
      rfl

instance : LawfulMonad (Prog S) :=
  LawfulMonad.mk' (Prog S) bind_done (fun _ _ => rfl) fun p f g => bind_assoc p f g

/-- A program that is never cut off, whatever it is answered. -/
inductive Uncut : Prog S α → Prop
  | done (a : α) : Uncut (.done a)
  | ask {op : S.Op} {next : S.Answer op → Prog S α} : (∀ r, Uncut (next r)) → Uncut (.ask op next)

theorem Uncut.request (op : S.Op) : Uncut (Prog.request op) := .ask fun r => .done r

theorem Uncut.bind {p : Prog S α} {f : α → Prog S β} (hp : Uncut p) (hf : ∀ a, Uncut (f a)) :
    Uncut (p.bind f) := by
  induction hp with
  | done a => exact hf a
  | ask _ ih => exact .ask ih

theorem Uncut.not_cuts {p : Prog S α} {tr : List (Exchange S)} (h : Uncut p) : ¬Cuts p tr := by
  intro cuts
  induction cuts with
  | cut => cases h
  | ask r _ ih =>
    cases h with
    | ask uncut => exact ih (uncut r)

/-- A program that is never cut off comes to an end under every handler. -/
theorem Uncut.run {p : Prog S α} (h : Uncut p) (answer : Handler S σ) (s : σ) :
    ∃ a s', p.run answer s = (some a, s') := by
  induction h generalizing s with
  | done a => exact ⟨a, s, rfl⟩
  | ask _ ih => exact ih (answer _ s).1 (answer _ s).2

end Prog

namespace Action

open Prog

variable {S : Signature} {α β : Type}

theorem outcome_bind (x : Action S α) (f : α → Action S β) :
    (x >>= f).outcome = x.outcome.bind fun
      | .ok a => (f a).outcome
      | .error e => .done (.error e) := by
  show Prog.bind x.outcome (ExceptT.bindCont f) = _
  congr 1
  funext r
  cases r <;> rfl

/-- An action that goes on with the result of another one either fails with it,
or makes its own requests afterwards. -/
theorem runs_bind {x : Action S α} {f : α → Action S β} {tr : List (Exchange S)}
    {r : Except Error β} :
    Runs (x >>= f).outcome tr r ↔
      (∃ e, r = .error e ∧ Runs x.outcome tr (.error e)) ∨
      ∃ tr₁ a tr₂, tr = tr₁ ++ tr₂ ∧ Runs x.outcome tr₁ (.ok a) ∧ Runs (f a).outcome tr₂ r := by
  rw [outcome_bind]
  refine Prog.runs_bind_except ?_ ?_ <;> exact fun _ => rfl

/-- An action that goes on with the result of another one comes to a value only if the other
one does. -/
theorem runs_bind_ok {x : Action S α} {f : α → Action S β} {tr : List (Exchange S)} {b : β} :
    Runs (x >>= f).outcome tr (.ok b) ↔
      ∃ tr₁ a tr₂, tr = tr₁ ++ tr₂ ∧ Runs x.outcome tr₁ (.ok a) ∧
        Runs (f a).outcome tr₂ (.ok b) := by
  rw [runs_bind]
  constructor
  · rintro (⟨e, ⟨⟩, -⟩ | parts)
    exact parts
  · exact .inr

/-- An action that goes on with the result of another one is cut off there, or in what it asks
afterwards. -/
theorem cuts_bind {x : Action S α} {f : α → Action S β} {tr : List (Exchange S)} :
    Cuts (x >>= f).outcome tr ↔ Cuts x.outcome tr ∨
      ∃ tr₁ a tr₂, tr = tr₁ ++ tr₂ ∧ Runs x.outcome tr₁ (.ok a) ∧ Cuts (f a).outcome tr₂ := by
  rw [outcome_bind]
  refine Prog.cuts_bind_except ?_ ?_ <;> exact fun _ => rfl

theorem runs_pure {a : α} {tr : List (Exchange S)} {r : Except Error α} :
    Runs (pure a : Action S α).outcome tr r ↔ tr = [] ∧ r = .ok a :=
  runs_done

theorem runs_throw {e : Error} {tr : List (Exchange S)} {r : Except Error α} :
    Runs (throw e : Action S α).outcome tr r ↔ tr = [] ∧ r = .error e :=
  runs_done

/-- A program that does not fail, as an action. -/
theorem runs_lift {x : Prog S α} {tr : List (Exchange S)} {r : Except Error α} :
    Runs (outcome (ExceptT.lift x)) tr r ↔ ∃ a, r = .ok a ∧ Runs x tr a :=
  Prog.runs_map.trans (exists_congr fun _ => and_comm)

theorem runs_liftM {x r : Except Error α} {tr : List (Exchange S)} :
    Runs (liftM x : Action S α).outcome tr r ↔ tr = [] ∧ r = x :=
  runs_done

theorem runs_ofExcept {x r : Except Error α} {tr : List (Exchange S)} :
    Runs (ofExcept x : Action S α).outcome tr r ↔ tr = [] ∧ r = x :=
  runs_done

/-- Changing the error of an action leaves what it asks as it is. -/
theorem runs_mapError {f : Error → Error} {x : Action S α} {tr : List (Exchange S)}
    {r : Except Error α} :
    Runs (x.mapError f).outcome tr r ↔ ∃ r', Runs x.outcome tr r' ∧ r = r'.mapError f :=
  Prog.runs_map

theorem cuts_mapError {f : Error → Error} {x : Action S α} {tr : List (Exchange S)} :
    Cuts (x.mapError f).outcome tr ↔ Cuts x.outcome tr :=
  Prog.cuts_map

/-! ## Actions that do not ask a kind of thing -/

/-- Whatever is answered, nothing that an action asks tells anything of a kind, whether it comes
to an end or is cut off. -/
structure Silent {γ : Type} (f : Exchange S → Option γ) (x : Action S α) : Prop where
  runs : ∀ {tr r}, Runs x.outcome tr r → tr.filterMap f = []
  cuts : ∀ {tr}, Cuts x.outcome tr → tr.filterMap f = []

namespace Silent

variable {γ : Type} {f : Exchange S → Option γ}

theorem bind {x : Action S α} {k : α → Action S β} (first : Silent f x)
    (second : ∀ a, Silent f (k a)) : Silent f (x >>= k) where
  runs := by
    intro tr r run
    rcases runs_bind.mp run with ⟨e, rfl, failed⟩ | ⟨tr₁, a, tr₂, rfl, done, rest⟩
    · exact first.runs failed
    · rw [List.filterMap_append, first.runs done, (second a).runs rest]
      rfl
  cuts := by
    intro tr cuts
    rcases cuts_bind.mp cuts with here | ⟨tr₁, a, tr₂, rfl, done, rest⟩
    · exact first.cuts here
    · rw [List.filterMap_append, first.runs done, (second a).cuts rest]
      rfl

theorem ofExcept {r : Except Error α} : Silent f (Action.ofExcept r : Action S α) where
  runs := by
    intro tr r' run
    obtain ⟨rfl, -⟩ := runs_ofExcept.mp run
    rfl
  cuts := nofun

theorem mapError {x : Action S α} {g : Error → Error} (silent : Silent f x) :
    Silent f (x.mapError g) where
  runs := by
    intro tr r run
    obtain ⟨r', ran, -⟩ := runs_mapError.mp run
    exact silent.runs ran
  cuts := fun cuts => silent.cuts (cuts_mapError.mp cuts)

/-- What asks one request only is silent if this tells nothing. -/
theorem single {x : Action S α} {op : S.Op} (uncut : Uncut x.outcome)
    (one : ∀ {tr r}, Runs x.outcome tr r → ∃ a, tr = [⟨op, a⟩])
    (silent : ∀ a, f ⟨op, a⟩ = none) : Silent f x where
  runs := by
    intro tr r run
    obtain ⟨a, rfl⟩ := one run
    exact List.filterMap_eq_nil_iff.mpr (List.forall_mem_singleton.mpr (silent a))
  cuts := fun cuts => absurd cuts uncut.not_cuts

theorem cut : Silent f (ExceptT.mk .cut : Action S α) where
  runs := nofun
  cuts := by
    intro tr cuts
    cases cuts
    rfl

end Silent

theorem uncut_liftM (x : Except Error α) : Uncut (liftM x : Action S α).outcome := .done x

theorem uncut_lift {x : Prog S α} (hx : Uncut x) : Uncut (outcome (ExceptT.lift x)) := by
  change Uncut (x.bind fun a => .done (Except.ok a))
  exact hx.bind fun a => .done _

theorem uncut_bind {x : Action S α} {f : α → Action S β} (hx : Uncut x.outcome)
    (hf : ∀ a, Uncut (f a).outcome) : Uncut (x >>= f).outcome := by
  rw [outcome_bind]
  refine hx.bind fun r => ?_
  cases r with
  | error e => exact .done _
  | ok a => exact hf a

theorem uncut_forM {f : α → Action S PUnit} {items : List α}
    (hf : ∀ a ∈ items, Uncut (f a).outcome) : Uncut (items.forM f).outcome := by
  induction items with
  | nil => exact .done _
  | cons a rest ih =>
    exact uncut_bind (hf a List.mem_cons_self) fun _ =>
      ih fun b mem => hf b (List.mem_cons_of_mem _ mem)

/-- What goes on with the result of an action that is never cut off is cut off afterwards. -/
theorem cuts_later {x : Action S α} {f : α → Action S β} {tr : List (Exchange S)}
    (uncut : Uncut x.outcome) (cuts : Cuts (x >>= f).outcome tr) :
    ∃ tr₁ a tr₂, tr = tr₁ ++ tr₂ ∧ Runs x.outcome tr₁ (.ok a) ∧ Cuts (f a).outcome tr₂ :=
  (cuts_bind.mp cuts).resolve_left uncut.not_cuts

theorem uncut_mapError {f : Error → Error} {x : Action S α} (hx : Uncut x.outcome) :
    Uncut (x.mapError f).outcome :=
  hx.bind fun r => .done (r.mapError f)

end Action
end NodePools
