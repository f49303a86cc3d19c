import NodePools.Error

/-!
# Programs of requests

What this library does to the world it does by requests, each with an answer.
A program is the tree of what it asks and how it goes on after each answer, so
that its behaviour can be stated for every behaviour of the world: a handler
answers the requests, keeping a state of its own, or puts programs of other
requests in their place.
-/

namespace NodePools

/-- The requests that may be made, and what answers each. -/
structure Signature where
  Op : Type
  Answer : Op → Type

/-- A program: it is done, or asks and goes on with the answer, or is cut off
because it has asked as often as it was allowed to. -/
inductive Prog (S : Signature) (α : Type) where
  | done (a : α)
  | ask (op : S.Op) (next : S.Answer op → Prog S α)
  | cut

/-- The requests of two signatures together. -/
def Signature.sum (S T : Signature) : Signature := ⟨S.Op ⊕ T.Op, Sum.elim S.Answer T.Answer⟩

namespace Prog

variable {S T : Signature} {α β σ : Type}

/-- Goes on with the result of a program. -/
def bind : Prog S α → (α → Prog S β) → Prog S β
  | .done a, f => f a
  | .ask op next, f => .ask op fun r => (next r).bind f
  | .cut, _ => .cut

instance : Monad (Prog S) where
  pure := .done
  bind := .bind

/-- The program that asks once. -/
def request (op : S.Op) : Prog S (S.Answer op) := .ask op .done

/-- Answers the requests of a program one after the other, with a state.  The
result is nothing if the program is cut off. -/
def run (answer : (op : S.Op) → σ → S.Answer op × σ) : Prog S α → σ → Option α × σ
  | .done a, s => (some a, s)
  | .ask op next, s =>
    let (r, s) := answer op s
    run answer (next r) s
  | .cut, s => (none, s)

/-- Puts a program of other requests in the place of each request. -/
def interpret (meaning : (op : S.Op) → Prog T (S.Answer op)) : Prog S α → Prog T α
  | .done a => .done a
  | .ask op next => (meaning op).bind fun r => interpret meaning (next r)
  | .cut => .cut

/-- A program of the first of two signatures as one of both. -/
def inFirst : Prog S α → Prog (S.sum T) α
  | .done a => .done a
  | .ask op next => .ask (S := S.sum T) (.inl op) fun r => inFirst (next r)
  | .cut => .cut

/-- A program of the second of two signatures as one of both. -/
def inSecond : Prog T α → Prog (S.sum T) α
  | .done a => .done a
  | .ask op next => .ask (S := S.sum T) (.inr op) fun r => inSecond (next r)
  | .cut => .cut

/-- What the requests of two signatures become, given it for each of them. -/
def either (first : (op : S.Op) → Prog T (S.Answer op)) {U : Signature}
    (second : (op : U.Op) → Prog T (U.Answer op)) :
    (op : (S.sum U).Op) → Prog T ((S.sum U).Answer op)
  | .inl op => first op
  | .inr op => second op

/-- Answers the requests of two signatures, each with a state of its own. -/
def answerEither {ρ : Type} (first : (op : S.Op) → σ → S.Answer op × σ)
    (second : (op : T.Op) → ρ → T.Answer op × ρ) :
    (op : (S.sum T).Op) → σ × ρ → (S.sum T).Answer op × (σ × ρ)
  | .inl op, (s, r) =>
    let (a, s) := first op s
    (a, (s, r))
  | .inr op, (s, r) =>
    let (a, r) := second op r
    (a, (s, r))

@[simp] theorem pure_eq (a : α) : (pure a : Prog S α) = .done a := rfl

@[simp] theorem bind_eq (p : Prog S α) (f : α → Prog S β) : p >>= f = p.bind f := rfl

@[simp] theorem done_bind (a : α) (f : α → Prog S β) : (Prog.done a).bind f = f a := rfl

theorem bind_done (p : Prog S α) : p.bind .done = p := by
  induction p with
  | done a => rfl
  | ask op next ih => simp [bind, ih]
  | cut => rfl

theorem bind_assoc {γ : Type} (p : Prog S α) (f : α → Prog S β) (g : β → Prog S γ) :
    (p.bind f).bind g = p.bind fun a => (f a).bind g := by
  induction p with
  | done a => rfl
  | ask op next ih => simp [bind, ih]
  | cut => rfl

end Prog

/-- A program that may fail. -/
abbrev Action (S : Signature) (α : Type) := ExceptT Error (Prog S) α

namespace Action

variable {S : Signature} {α : Type}

/-- Asks a request that may fail, and fails with it. -/
def ofAnswer (p : Prog S (Except Error α)) : Action S α := ExceptT.mk p

/-- The outcome of an action. -/
def outcome (a : Action S α) : Prog S (Except Error α) := ExceptT.run a

/-- An action that has an outcome without asking. -/
def ofExcept (r : Except Error α) : Action S α := ExceptT.mk (.done r)

instance : MonadLift (Except Error) (ExceptT Error (Prog S)) := ⟨ofExcept⟩

/-- Changes the error of an action that fails. -/
def mapError (f : Error → Error) (a : Action S α) : Action S α :=
  ExceptT.mk (a.outcome.bind fun r => .done (r.mapError f))

end Action
end NodePools
