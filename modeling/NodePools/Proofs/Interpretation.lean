import NodePools.Proofs.Trace
import NodePools.Settle

/-!
# Programs in the place of requests

When every request of a program is replaced by a program of other requests, what is asked
in the end is, request by request, what the programs in their places ask.  `Refines` says
this of two traces, and `runs_interpret` that the traces of the whole are just those that
refine a trace of the program.

Replacing requests goes through sequences (`interpret_bind`) and through tasks that are
run one after the other (`interpret_attemptAll`), whose traces are in parts as well
(`Settle.runs_attemptAll`).
-/

namespace NodePools

/-! ## Lists in parts -/

/-- The second list consists of parts, one for each item of the first list in its order,
that stand in a relation to their items. -/
inductive InParts {α β : Type} (R : α → List β → Prop) : List α → List β → Prop
  | nil : InParts R [] []
  | cons {a : α} {items : List α} {part rest : List β} : R a part → InParts R items rest →
    InParts R (a :: items) (part ++ rest)

namespace InParts

variable {α β γ : Type} {R : α → List β → Prop} {items : List α} {whole : List β}

/-- The parts of a list of items come first, and those of the items behind it afterwards. -/
theorem split {more : List α} (h : InParts R (items ++ more) whole) :
    ∃ first second, whole = first ++ second ∧ InParts R items first ∧ InParts R more second := by
  induction items generalizing whole with
  | nil => exact ⟨[], whole, rfl, .nil, h⟩
  | cons a items ih =>
    cases h with
    | cons part rest =>
      obtain ⟨first, second, rfl, before, after⟩ := ih rest
      exact ⟨_, second, (List.append_assoc ..).symm, .cons part before, after⟩

/-- What is read off a list in parts is read off its parts. -/
theorem filterMap {T : α → List γ → Prop} {f : β → Option γ}
    (each : ∀ a part, R a part → T a (part.filterMap f)) (h : InParts R items whole) :
    InParts T items (whole.filterMap f) := by
  induction h with
  | nil => exact .nil
  | cons part _ ih =>
    rw [List.filterMap_append]
    exact .cons (each _ _ part) ih

/-- Items that stand for nothing may be left out. -/
theorem filter {keep : α → Bool} (silent : ∀ a part, R a part → keep a = false → part = [])
    (h : InParts R items whole) : InParts R (items.filter keep) whole := by
  induction h with
  | nil => exact .nil
  | @cons a items part rest of_a _ ih =>
    cases kept : keep a with
    | true =>
      rw [List.filter_cons_of_pos kept]
      exact .cons of_a ih
    | false =>
      rw [List.filter_cons_of_neg (Bool.eq_false_iff.mp kept), silent a part of_a kept]
      exact ih

/-- If every item stands for nothing, so do all. -/
theorem eq_nil (silent : ∀ a ∈ items, ∀ part, R a part → part = []) (h : InParts R items whole) :
    whole = [] := by
  induction h with
  | nil => rfl
  | cons of_a _ ih =>
    obtain ⟨here, later⟩ := List.forall_mem_cons.mp silent
    rw [here _ of_a, ih later]
    rfl

/-- What is in the whole is in the part of an item. -/
theorem of_mem {x : β} (h : InParts R items whole) (mem : x ∈ whole) :
    ∃ a ∈ items, ∃ part, R a part ∧ x ∈ part := by
  induction h with
  | nil => cases mem
  | @cons a items part rest of_a _ ih =>
    rcases List.mem_append.mp mem with mem | mem
    · exact ⟨a, List.mem_cons_self, part, of_a, mem⟩
    · obtain ⟨a', inside, found⟩ := ih mem
      exact ⟨a', List.mem_cons_of_mem _ inside, found⟩

/-- The part of an item is in the whole. -/
theorem part_of_mem {a : α} (h : InParts R items whole) (mem : a ∈ items) :
    ∃ part, R a part ∧ part ⊆ whole := by
  induction h with
  | nil => cases mem
  | cons of_a _ ih =>
    rcases List.mem_cons.mp mem with rfl | mem
    · exact ⟨_, of_a, List.subset_append_left ..⟩
    · obtain ⟨part, of_a, inside⟩ := ih mem
      exact ⟨part, of_a, List.Subset.trans inside (List.subset_append_right ..)⟩

/-- Parts that are given by the places of the items. -/
theorem of_places {part : Nat → List β} (each : ∀ i a, items[i]? = some a → R a (part i)) :
    InParts R items ((List.range items.length).flatMap part) := by
  induction items generalizing part with
  | nil => exact .nil
  | cons a items ih =>
    rw [List.length_cons, List.range_succ_eq_map, List.flatMap_cons, List.flatMap_map]
    exact .cons (each 0 a rfl) (ih fun i b found => each (i + 1) b found)

theorem singleton {a : α} (h : InParts R [a] whole) : R a whole := by
  cases h with
  | cons part rest =>
    cases rest
    rw [List.append_nil]
    exact part

end InParts

/-- The traces of tasks that are run one after the other consist of a trace of each task. -/
theorem Settle.runs_attemptAll {S : Signature} {α β : Type} {task : α → Prog S β} {items : List α}
    {tr : List (Exchange S)} {results : List (α × β)} :
    Prog.Runs (attemptAll task items) tr results ↔
      results.map Prod.fst = items ∧
        InParts (fun e part => Prog.Runs (task e.1) part e.2) results tr := by
  induction items generalizing tr results with
  | nil =>
    constructor
    · intro run
      obtain ⟨rfl, rfl⟩ := Prog.runs_done.mp run
      exact ⟨rfl, .nil⟩
    · rintro ⟨none, parts⟩
      obtain rfl := List.map_eq_nil_iff.mp none
      cases parts
      exact .done []
  | cons a rest ih =>
    constructor
    · intro run
      obtain ⟨part, b, later, rfl, first, run⟩ := Prog.runs_bind.mp run
      obtain ⟨tr₁, others, tr₂, rfl, second, last⟩ := Prog.runs_bind.mp run
      obtain ⟨rfl, rfl⟩ := Prog.runs_done.mp last
      obtain ⟨same, parts⟩ := ih.mp second
      rw [List.append_nil]
      exact ⟨congrArg (a :: ·) same, .cons first parts⟩
    · rintro ⟨same, parts⟩
      cases parts with
      | nil => cases same
      | @cons e others part whole first parts =>
        obtain ⟨rfl, others_same⟩ := List.cons.inj same
        have run : Prog.Runs ((attemptAll task rest).bind fun others => .done (e :: others)) whole
            (e :: others) :=
          Prog.runs_bind.mpr ⟨whole, others, [], (List.append_nil whole).symm,
            ih.mpr ⟨others_same, parts⟩, .done _⟩
        exact Prog.runs_bind.mpr ⟨part, e.2, whole, rfl, first, run⟩

/-- One of the tasks comes behind those in front of it, and before those behind it. -/
theorem Settle.runs_attemptAll_at {S : Signature} {α β : Type} {task : α → Prog S β}
    {items : List α} {tr : List (Exchange S)} {front back : List (α × β)} {a : α} {b : β}
    (run : Prog.Runs (attemptAll task items) tr (front ++ (a, b) :: back)) :
    ∃ before part after, tr = before ++ part ++ after ∧
      Prog.Runs (attemptAll task (front.map Prod.fst)) before front ∧
      Prog.Runs (task a) part b ∧
      Prog.Runs (attemptAll task (back.map Prod.fst)) after back := by
  obtain ⟨before, rest, rfl, first, second⟩ := (runs_attemptAll.mp run).2.split
  cases second with
  | @cons _ _ part after here later =>
    exact ⟨before, part, after, (List.append_assoc ..).symm, runs_attemptAll.mpr ⟨rfl, first⟩,
      here, runs_attemptAll.mpr ⟨rfl, later⟩⟩

/-! ## Requests of two signatures -/

namespace Exchange

variable {S T : Signature}

/-- An exchange of the first of two signatures as one of both. -/
def inFirst (e : Exchange S) : Exchange (S.sum T) := ⟨.inl e.op, e.answer⟩

/-- An exchange of the second of two signatures as one of both. -/
def inSecond (e : Exchange T) : Exchange (S.sum T) := ⟨.inr e.op, e.answer⟩

/-- The exchange of the first of two signatures that an exchange of both is. -/
def first? : Exchange (S.sum T) → Option (Exchange S)
  | ⟨.inl op, answer⟩ => some ⟨op, answer⟩
  | ⟨.inr _, _⟩ => none

end Exchange

/-- The exchanges of the first of two signatures. -/
def ofFirst {S T : Signature} (tr : List (Exchange (S.sum T))) : List (Exchange S) :=
  tr.filterMap Exchange.first?

section

variable {S T : Signature}

@[simp] theorem ofFirst_nil : ofFirst ([] : List (Exchange (S.sum T))) = [] := rfl

@[simp] theorem ofFirst_inFirst_cons (e : Exchange S) (tr : List (Exchange (S.sum T))) :
    ofFirst (e.inFirst :: tr) = e :: ofFirst tr := rfl

@[simp] theorem ofFirst_append (tr₁ tr₂ : List (Exchange (S.sum T))) :
    ofFirst (tr₁ ++ tr₂) = ofFirst tr₁ ++ ofFirst tr₂ :=
  List.filterMap_append ..

@[simp] theorem ofFirst_map_inFirst (es : List (Exchange S)) :
    ofFirst (es.map Exchange.inFirst : List (Exchange (S.sum T))) = es :=
  List.filterMap_map.trans List.filterMap_some

end

namespace Prog

variable {S T : Signature} {α β : Type}

theorem runs_inFirst {p : Prog S α} {tr : List (Exchange (S.sum T))} {a : α}
    (run : Runs (p.inFirst : Prog (S.sum T) α) tr a) :
    ∃ es, Runs p es a ∧ tr = es.map Exchange.inFirst := by
  induction p generalizing tr with
  | done b =>
    obtain ⟨rfl, rfl⟩ := runs_done.mp run
    exact ⟨[], .done a, rfl⟩
  | ask op next ih =>
    obtain ⟨r, rest, rfl, later⟩ := runs_ask.mp run
    obtain ⟨es, ran, rfl⟩ := ih r later
    exact ⟨⟨op, r⟩ :: es, .ask (S := S) r ran, rfl⟩
  | cut => cases run

theorem cuts_inFirst {p : Prog S α} {tr : List (Exchange (S.sum T))}
    (cuts : Cuts (p.inFirst : Prog (S.sum T) α) tr) :
    ∃ es, Cuts p es ∧ tr = es.map Exchange.inFirst := by
  induction p generalizing tr with
  | done b => cases cuts
  | ask op next ih =>
    cases cuts with
    | ask r later =>
      obtain ⟨es, here, rfl⟩ := ih r later
      exact ⟨⟨op, r⟩ :: es, .ask (S := S) r here, rfl⟩
  | cut =>
    cases cuts
    exact ⟨[], .cut, rfl⟩

theorem Uncut.inFirst {p : Prog S α} (h : Uncut p) : Uncut (p.inFirst : Prog (S.sum T) α) := by
  induction h with
  | done a => exact .done a
  | ask _ ih => exact .ask ih

theorem runs_inSecond_request {op : T.Op} {tr : List (Exchange (S.sum T))} {r : T.Answer op}
    (run : Runs ((request op).inSecond : Prog (S.sum T) (T.Answer op)) tr r) :
    tr = [Exchange.inSecond ⟨op, r⟩] := by
  obtain ⟨r, rest, rfl, later⟩ := runs_ask.mp run
  obtain ⟨rfl, rfl⟩ := runs_done.mp later
  rfl

/-! ## Replacing requests -/

/-- The second trace is what the programs in the place of the requests of the first trace
ask, one after the other, to give the answers in it. -/
def Refines (meaning : (op : S.Op) → Prog T (S.Answer op)) :
    List (Exchange S) → List (Exchange T) → Prop :=
  InParts fun e asked => Runs (meaning e.op) asked e.answer

variable {meaning : (op : S.Op) → Prog T (S.Answer op)}

/-- The traces of a program whose requests are replaced are those that refine a trace of
the program. -/
theorem runs_interpret {p : Prog S α} {tr : List (Exchange T)} {a : α} :
    Runs (p.interpret meaning) tr a ↔ ∃ es, Runs p es a ∧ Refines meaning es tr := by
  induction p generalizing tr with
  | done b =>
    constructor
    · intro h
      obtain ⟨rfl, rfl⟩ := runs_done.mp h
      exact ⟨[], .done a, .nil⟩
    · rintro ⟨es, run, refines⟩
      obtain ⟨rfl, rfl⟩ := runs_done.mp run
      cases refines
      exact .done a
  | ask op next ih =>
    constructor
    · intro h
      obtain ⟨asked, r, rest, rfl, first, later⟩ := runs_bind.mp h
      obtain ⟨es, run, refines⟩ := (ih r).mp later
      exact ⟨⟨op, r⟩ :: es, .ask r run, .cons first refines⟩
    · rintro ⟨es, run, refines⟩
      obtain ⟨r, es, rfl, later⟩ := runs_ask.mp run
      cases refines with
      | cons first refines =>
        exact runs_bind.mpr ⟨_, r, _, rfl, first, (ih r).mpr ⟨es, later, refines⟩⟩
  | cut =>
    constructor
    · intro h
      cases h
    · rintro ⟨es, run, -⟩
      cases run

/-- If only the requests of the first of two signatures are replaced, what the trace tells of
the others in their places is in parts, one for each request, and nothing is told of the
requests that stay what they are; these are in the trace with their answers. -/
theorem runs_interpret_either {U : Signature} {γ : Type}
    {first : (op : S.Op) → Prog T (S.Answer op)} {f : Exchange T → Option γ}
    {R : Exchange (S.sum U) → List γ → Prop} {p : Prog (S.sum U) α}
    {tr : List (Exchange (T.sum U))} {a : α}
    (replaced : ∀ op answer asked, Runs (first op) asked answer →
      R ⟨.inl op, answer⟩ (asked.filterMap f))
    (kept : ∀ op answer, R ⟨.inr op, answer⟩ [])
    (run : Runs (p.interpret (either (S := S) (U := U) (fun op => .inFirst (first op))
      fun op => .inSecond (.request op))) tr a) :
    ∃ es, Runs p es a ∧ InParts R es ((ofFirst tr).filterMap f) ∧
      ∀ op answer, (⟨.inr op, answer⟩ : Exchange (S.sum U)) ∈ es → ⟨.inr op, answer⟩ ∈ tr := by
  obtain ⟨es, ran, refines⟩ := runs_interpret.mp run
  refine ⟨es, ran, ?_, fun op answer mem => ?_⟩
  · rw [ofFirst, List.filterMap_filterMap]
    refine refines.filterMap fun e part ran => ?_
    rw [← List.filterMap_filterMap, ← ofFirst]
    obtain ⟨op | op, answer⟩ := e
    · obtain ⟨asked, here, rfl⟩ := runs_inFirst ran
      rw [ofFirst_map_inFirst]
      exact replaced op answer asked here
    · obtain rfl := runs_inSecond_request ran
      exact kept op answer
  · obtain ⟨part, ran, inside⟩ := refines.part_of_mem mem
    obtain rfl := runs_inSecond_request ran
    exact inside (List.mem_singleton_self _)

theorem interpret_bind (p : Prog S α) (f : α → Prog S β) :
    (p.bind f).interpret meaning = (p.interpret meaning).bind fun a => (f a).interpret meaning := by
  induction p with
  | done a => rfl
  | ask op next ih =>
    simp only [bind, interpret, ih]
    exact (bind_assoc ..).symm
  | cut => rfl

/-- To replace the requests of tasks that are run one after the other is to replace those
of each task. -/
theorem interpret_attemptAll (task : α → Prog S β) (items : List α) :
    (Settle.attemptAll task items).interpret meaning =
      Settle.attemptAll (fun a => (task a).interpret meaning) items := by
  induction items with
  | nil => rfl
  | cons a rest ih =>
    simp only [Settle.attemptAll, bind_eq, interpret_bind, ih]
    rfl

end Prog

namespace Action

open Prog (Cuts Runs)

variable {S T : Signature} {α β : Type} {meaning : (op : S.Op) → Prog T (S.Answer op)}

/-- With its requests replaced, an action that goes on with the result of another one still
either fails with it, or makes its own requests afterwards. -/
theorem runs_interpret_bind {x : Action S α} {f : α → Action S β} {tr : List (Exchange T)}
    {r : Except Error β} :
    Runs ((x >>= f).outcome.interpret meaning) tr r ↔
      (∃ e, r = .error e ∧ Runs (x.outcome.interpret meaning) tr (.error e)) ∨
      ∃ tr₁ a tr₂, tr = tr₁ ++ tr₂ ∧ Runs (x.outcome.interpret meaning) tr₁ (.ok a) ∧
        Runs ((f a).outcome.interpret meaning) tr₂ r := by
  rw [outcome_bind, Prog.interpret_bind]
  refine Prog.runs_bind_except ?_ ?_ <;> exact fun _ => rfl

/-- With its requests replaced, an action that goes on with the result of another one is still
cut off there, or in what it asks afterwards. -/
theorem cuts_interpret_bind {x : Action S α} {f : α → Action S β} {tr : List (Exchange T)} :
    Cuts ((x >>= f).outcome.interpret meaning) tr ↔ Cuts (x.outcome.interpret meaning) tr ∨
      ∃ tr₁ a tr₂, tr = tr₁ ++ tr₂ ∧ Runs (x.outcome.interpret meaning) tr₁ (.ok a) ∧
        Cuts ((f a).outcome.interpret meaning) tr₂ := by
  rw [outcome_bind, Prog.interpret_bind]
  refine Prog.cuts_bind_except ?_ ?_ <;> exact fun _ => rfl

theorem uncut_interpret_bind {x : Action S α} {f : α → Action S β}
    (hx : (x.outcome.interpret meaning).Uncut) (hf : ∀ a, ((f a).outcome.interpret meaning).Uncut) :
    ((x >>= f).outcome.interpret meaning).Uncut := by
  rw [outcome_bind, Prog.interpret_bind]
  refine hx.bind fun r => ?_
  cases r with
  | error e => exact .done _
  | ok a => exact hf a

theorem uncut_interpret_mapError {f : Error → Error} {x : Action S α}
    (hx : (x.outcome.interpret meaning).Uncut) :
    ((x.mapError f).outcome.interpret meaning).Uncut := by
  show ((x.outcome.bind fun r => .done (r.mapError f)).interpret meaning).Uncut
  rw [Prog.interpret_bind]
  exact hx.bind fun r => .done _

theorem runs_interpret_mapError {f : Error → Error} {x : Action S α} {tr : List (Exchange T)}
    {r : Except Error α} :
    Runs ((x.mapError f).outcome.interpret meaning) tr r ↔
      ∃ r', Runs (x.outcome.interpret meaning) tr r' ∧ r = r'.mapError f := by
  show Runs ((x.outcome.bind fun r => .done (r.mapError f)).interpret meaning) tr r ↔ _
  rw [Prog.interpret_bind]
  exact Prog.runs_map

theorem cuts_interpret_mapError {f : Error → Error} {x : Action S α} {tr : List (Exchange T)} :
    Cuts ((x.mapError f).outcome.interpret meaning) tr ↔ Cuts (x.outcome.interpret meaning) tr := by
  show Cuts ((x.outcome.bind fun r => .done (r.mapError f)).interpret meaning) tr ↔ _
  rw [Prog.interpret_bind]
  exact Prog.cuts_map

end Action
end NodePools
