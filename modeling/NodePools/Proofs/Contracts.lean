import NodePools.Proofs.Interpretation

/-!
# What a program comes to if it is answered well

A contract of a program says what is so of its result whenever all its answers are as they
should be (`Prog.Ensures`).  Contracts go together as programs do: through sequences
(`Ensures.bind`, `Action.ensures_bind`), through a change of errors
(`Action.ensures_mapError`), and from the programs in the place of requests to the program
that makes the requests (`Ensures.interpret`): there, the contracts of the former are what the
latter relies on.
-/

namespace NodePools

/-- What is so of an exchange of two signatures, given it for each of them. -/
def Exchange.Either {S T : Signature} (first : Exchange S → Prop) (second : Exchange T → Prop) :
    Exchange (S.sum T) → Prop
  | ⟨.inl op, answer⟩ => first ⟨op, answer⟩
  | ⟨.inr op, answer⟩ => second ⟨op, answer⟩

theorem bind_eq_ok {ε α β : Type} {x : Except ε α} {f : α → Except ε β} {b : β} :
    x >>= f = .ok b ↔ ∃ a, x = .ok a ∧ f a = .ok b := by
  cases x with
  | error e => exact ⟨nofun, nofun⟩
  | ok a =>
    refine ⟨fun h => ⟨a, rfl, h⟩, ?_⟩
    rintro ⟨_, ⟨⟩, h⟩
    exact h

/-- What fails, fails with an error of a kind. -/
def FailsBy {α : Type} (kind : Error → Prop) (r : Except Error α) : Prop :=
  ∀ e, r = .error e → kind e

theorem failsBy_ok {α : Type} {kind : Error → Prop} {a : α} : FailsBy kind (.ok a) := nofun

theorem failsBy_error {α : Type} {kind : Error → Prop} {e : Error} (h : kind e) :
    FailsBy kind (.error e : Except Error α) := by
  rintro _ ⟨⟩
  exact h

/-- What goes on with a value fails as the one or the other. -/
theorem failsBy_bind_iff {α β : Type} {kind : Error → Prop} {x : Except Error α}
    {f : α → Except Error β} :
    FailsBy kind (x >>= f) ↔ FailsBy kind x ∧ ∀ a, x = .ok a → FailsBy kind (f a) := by
  cases x with
  | error e => exact ⟨fun h => ⟨failsBy_error (h e rfl), nofun⟩, fun h => failsBy_error (h.1 e rfl)⟩
  | ok a =>
    refine ⟨fun h => ⟨failsBy_ok, ?_⟩, fun h => h.2 a rfl⟩
    rintro _ ⟨⟩
    exact h

namespace Prog

variable {S T : Signature} {α β : Type} {sound : Exchange S → Prop} {post : α → Prop}

/-- Whenever all answers are as they should be, so is what a program comes to. -/
def Ensures (sound : Exchange S → Prop) (p : Prog S α) (post : α → Prop) : Prop :=
  ∀ tr a, Runs p tr a → (∀ e ∈ tr, sound e) → post a

namespace Ensures

theorem done {a : α} (h : post a) : Ensures sound (.done a) post := by
  intro tr b run _
  obtain ⟨-, rfl⟩ := runs_done.mp run
  exact h

theorem cut : Ensures sound .cut post := by
  intro tr a run
  cases run

theorem ask {op : S.Op} {next : S.Answer op → Prog S α}
    (h : ∀ r, sound ⟨op, r⟩ → Ensures sound (next r) post) : Ensures sound (.ask op next) post := by
  intro tr a run all
  obtain ⟨r, rest, rfl, later⟩ := runs_ask.mp run
  obtain ⟨here, others⟩ := List.forall_mem_cons.mp all
  exact h r here rest a later others

theorem request {op : S.Op} {post : S.Answer op → Prop} (h : ∀ r, sound ⟨op, r⟩ → post r) :
    Ensures sound (.request op) post :=
  .ask fun r here => .done (h r here)

theorem bind {p : Prog S α} {f : α → Prog S β} {mid : α → Prop} {post : β → Prop}
    (first : Ensures sound p mid) (second : ∀ a, mid a → Ensures sound (f a) post) :
    Ensures sound (p.bind f) post := by
  intro tr b run all
  obtain ⟨tr₁, a, tr₂, rfl, here, later⟩ := runs_bind.mp run
  obtain ⟨before, after⟩ := List.forall_mem_append.mp all
  exact second a (first tr₁ a here before) tr₂ b later after

/-- A contract may rely on more, and promise less. -/
theorem mono {p : Prog S α} {sound' : Exchange S → Prop} {post' : α → Prop}
    (h : Ensures sound p post) (less : ∀ e, sound' e → sound e) (more : ∀ a, post a → post' a) :
    Ensures sound' p post' :=
  fun tr a run all => more a (h tr a run fun e mem => less e (all e mem))

theorem inFirst {p : Prog S α} {second : Exchange T → Prop} (h : Ensures sound p post) :
    Ensures (Exchange.Either sound second) (p.inFirst : Prog (S.sum T) α) post := by
  intro tr a run all
  obtain ⟨es, ran, rfl⟩ := runs_inFirst run
  exact h es a ran fun e mem => all _ (List.mem_map_of_mem mem)

/-- With programs in the place of its requests, a program keeps its contract if the contracts
of these programs are what it relies on. -/
theorem interpret {p : Prog S α} {meaning : (op : S.Op) → Prog T (S.Answer op)}
    {sound' : Exchange T → Prop} (h : Ensures sound p post)
    (each : ∀ op, Ensures sound' (meaning op) fun r => sound ⟨op, r⟩) :
    Ensures sound' (p.interpret meaning) post := by
  intro tr a run all
  obtain ⟨es, ran, refines⟩ := runs_interpret.mp run
  refine h es a ran ?_
  clear ran run
  induction refines with
  | nil => exact nofun
  | cons part _ ih =>
    obtain ⟨before, after⟩ := List.forall_mem_append.mp all
    exact List.forall_mem_cons.mpr ⟨each _ _ _ part before, ih after⟩

end Ensures
end Prog

namespace Action

open Prog (Ensures)

variable {S : Signature} {α β : Type} {sound : Exchange S → Prop} {post : Except Error β → Prop}

/-- The contract of an action that goes on with the value of another one, and hands on its
error. -/
theorem ensures_bind {x : Action S α} {f : α → Action S β} {mid : Except Error α → Prop}
    (first : Ensures sound x.outcome mid) (failed : ∀ e, mid (.error e) → post (.error e))
    (later : ∀ a, mid (.ok a) → Ensures sound (f a).outcome post) :
    Ensures sound (x >>= f).outcome post := by
  rw [outcome_bind]
  refine first.bind fun r of_r => ?_
  cases r with
  | error e => exact .done (failed e of_r)
  | ok a => exact later a of_r

/-! ## How actions fail -/

section

variable {kind : Error → Prop}

theorem ensures_failsBy_bind {x : Action S α} {f : α → Action S β}
    (first : Ensures sound x.outcome (FailsBy kind))
    (later : ∀ a, Ensures sound (f a).outcome (FailsBy kind)) :
    Ensures sound (x >>= f).outcome (FailsBy kind) :=
  ensures_bind first (fun e of_e => failsBy_error (of_e e rfl)) fun a _ => later a

theorem ensures_mapError {g : Error → Error} {x : Action S β}
    (h : Ensures sound x.outcome (FailsBy fun e => kind (g e))) :
    Ensures sound (x.mapError g).outcome (FailsBy kind) := by
  refine h.bind fun r of_r => .done ?_
  cases r with
  | error e => exact failsBy_error (of_r e rfl)
  | ok a => exact failsBy_ok

theorem ensures_forM {f : α → Action S PUnit} {items : List α}
    (each : ∀ a ∈ items, Ensures sound (f a).outcome (FailsBy kind)) :
    Ensures sound (items.forM f).outcome (FailsBy kind) := by
  induction items with
  | nil => exact .done failsBy_ok
  | cons a rest ih =>
    obtain ⟨here, others⟩ := List.forall_mem_cons.mp each
    exact ensures_failsBy_bind here fun _ => ih others

end

end Action
end NodePools
