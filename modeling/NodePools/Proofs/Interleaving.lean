import Mathlib.Data.List.Basic
import Mathlib.Data.List.Induction
import NodePools.Proofs.Trace
import NodePools.Settle

/-!
# Tasks at the same time

Several programs share one world.  At any moment any of them that is not done may
make its next request, and the world answers it from the state in which the
requests of all of them have left it.  `Interleaved` holds of every such way to
run the tasks to their ends; its trace tells of each exchange whose it is.

Whatever the order, each task makes the requests of a run of its own
(`Interleaved.runs`), and its result stands at its own place.  To run the tasks
one after the other, as `Settle.attemptAll` does, is one of the orders
(`interleaved_of_attemptAll`).
-/

namespace NodePools

variable {S : Signature} {α β σ : Type}

/-! ## Traces that tell whose each exchange is -/

section

variable {ι : Type} [DecidableEq ι]

/-- What one task asked, in a trace that tells whose each exchange is. -/
def own (i : ι) (tr : List (ι × Exchange S)) : List (Exchange S) :=
  tr.filterMap fun e => if e.1 = i then some e.2 else none

@[simp] theorem own_nil (i : ι) : own i ([] : List (ι × Exchange S)) = [] := rfl

@[simp] theorem own_append (i : ι) (tr₁ tr₂ : List (ι × Exchange S)) :
    own i (tr₁ ++ tr₂) = own i tr₁ ++ own i tr₂ :=
  List.filterMap_append ..

theorem own_cons_self (i : ι) (e : Exchange S) (tr : List (ι × Exchange S)) :
    own i ((i, e) :: tr) = e :: own i tr := by
  simp [own]

theorem own_cons_other {i j : ι} (h : j ≠ i) (e : Exchange S) (tr : List (ι × Exchange S)) :
    own i ((j, e) :: tr) = own i tr := by
  simp [own, h]

theorem mem_own {i : ι} {e : Exchange S} {tr : List (ι × Exchange S)} :
    e ∈ own i tr ↔ (i, e) ∈ tr := by
  simp only [own, List.mem_filterMap, Option.ite_none_right_eq_some, Option.some.injEq]
  constructor
  · rintro ⟨⟨j, e'⟩, mem, rfl, rfl⟩
    exact mem
  · intro mem
    exact ⟨(i, e), mem, rfl, rfl⟩

theorem own_map_self (i : ι) (tr : List (Exchange S)) : own i (tr.map fun e => (i, e)) = tr := by
  rw [own, List.filterMap_map]
  refine (List.filterMap_congr fun e _ => ?_).trans List.filterMap_some
  exact if_pos rfl

theorem own_map_other {i j : ι} (h : j ≠ i) (tr : List (Exchange S)) :
    own i (tr.map fun e => (j, e)) = [] := by
  rw [own, List.filterMap_map]
  exact List.filterMap_eq_nil_iff.mpr fun e _ => if_neg h

private theorem flatMap_own_cons {j : ι} {places : List ι} (distinct : places.Nodup)
    (mem : j ∈ places) (e : Exchange S) (tr : List (ι × Exchange S)) :
    (places.flatMap fun i => own i ((j, e) :: tr)).Perm
      (e :: places.flatMap fun i => own i tr) := by
  induction places with
  | nil => cases mem
  | cons i rest ih =>
    obtain ⟨fresh, distinct⟩ := List.nodup_cons.mp distinct
    by_cases same : j = i
    · subst same
      have others : (rest.flatMap fun i => own i ((j, e) :: tr)) =
          rest.flatMap fun i => own i tr :=
        List.flatMap_congr fun i inside =>
          own_cons_other (ne_of_mem_of_not_mem inside fresh).symm e tr
      rw [List.flatMap_cons, List.flatMap_cons, own_cons_self, others, List.cons_append]
    · rw [List.flatMap_cons, List.flatMap_cons, own_cons_other same]
      have inside := (List.mem_cons.mp mem).resolve_left same
      exact ((ih distinct inside).append_left _).trans List.perm_middle

/-- A trace has the exchanges of all tasks and no others, in some order. -/
theorem flatMap_own_perm {places : List ι} (distinct : places.Nodup)
    {tr : List (ι × Exchange S)} (inside : ∀ e ∈ tr, e.1 ∈ places) :
    (places.flatMap fun i => own i tr).Perm (tr.map Prod.snd) := by
  induction tr with
  | nil => simp
  | cons e tr ih =>
    obtain ⟨j, e⟩ := e
    have first := flatMap_own_cons distinct (inside (j, e) List.mem_cons_self) e tr
    exact first.trans ((ih fun e mem => inside e (List.mem_cons_of_mem _ mem)).cons e)

end

/-- What is told of the places of a list, place by place, is what is told of its items. -/
theorem flatMap_range_eq {γ δ : Type} {items : List γ} {atPlace : Nat → List δ}
    {ofItem : γ → List δ} (h : ∀ i a, items[i]? = some a → atPlace i = ofItem a) :
    (List.range items.length).flatMap atPlace = items.flatMap ofItem := by
  induction items using List.reverseRecOn with
  | nil => rfl
  | append_singleton items a ih =>
    have before : ∀ i b, items[i]? = some b → atPlace i = ofItem b := by
      intro i b found
      obtain ⟨inside, -⟩ := List.getElem?_eq_some_iff.mp found
      exact h i b ((List.getElem?_append_left inside).trans found)
    have last : atPlace items.length = ofItem a := h _ _ List.getElem?_concat_length
    rw [List.length_append, List.length_singleton, List.range_succ, List.flatMap_append,
      List.flatMap_append, ih before, List.flatMap_singleton, List.flatMap_singleton, last]

/-! ## Runs of several tasks -/

/-- The tasks are run to their ends from the first state, in some order of their
requests: the trace is what is asked and answered, with the place of the task
that asks, and the tasks are done with the values in the second list. -/
inductive Interleaved (answer : Handler S σ) :
    List (Prog S β) → σ → List (Nat × Exchange S) → List β → σ → Prop
  | finished (bs : List β) (s : σ) : Interleaved answer (bs.map .done) s [] bs s
  | step {tasks : List (Prog S β)} {i : Nat} {op : S.Op} {next : S.Answer op → Prog S β}
    {s s' : σ} {tr : List (Nat × Exchange S)} {bs : List β} :
    tasks[i]? = some (.ask op next) →
      Interleaved answer (tasks.set i (next (answer op s).1)) (answer op s).2 tr bs s' →
      Interleaved answer tasks s ((i, ⟨op, (answer op s).1⟩) :: tr) bs s'

namespace Interleaved

variable {answer : Handler S σ} {tasks : List (Prog S β)} {s s' : σ}
  {tr : List (Nat × Exchange S)} {bs : List β}

theorem length_eq (h : Interleaved answer tasks s tr bs s') : bs.length = tasks.length := by
  induction h with
  | finished bs s => rw [List.length_map]
  | step _ _ ih => rw [ih, List.length_set]

/-- Every task makes the requests of a run of its own and is done with its value. -/
theorem runs (h : Interleaved answer tasks s tr bs s') {i : Nat} {task : Prog S β}
    (at_i : tasks[i]? = some task) : ∃ b, bs[i]? = some b ∧ task.Runs (own i tr) b := by
  induction h generalizing task with
  | finished bs s =>
    rw [List.getElem?_map] at at_i
    obtain ⟨b, hb, rfl⟩ := Option.map_eq_some_iff.mp at_i
    exact ⟨b, hb, .done b⟩
  | @step tasks j op next s s' tr bs at_j _ ih =>
    obtain ⟨inside, _⟩ := List.getElem?_eq_some_iff.mp at_j
    by_cases hij : j = i
    · subst hij
      obtain ⟨b, hb, run⟩ := ih (List.getElem?_set_self inside)
      rw [at_i] at at_j
      cases at_j
      rw [own_cons_self]
      exact ⟨b, hb, .ask _ run⟩
    · rw [own_cons_other hij]
      exact ih ((List.getElem?_set_ne hij).trans at_i)

/-- Every exchange is one of a task. -/
theorem index_lt (h : Interleaved answer tasks s tr bs s') {e : Nat × Exchange S} (mem : e ∈ tr) :
    e.1 < tasks.length := by
  induction h with
  | finished bs s => cases mem
  | step at_j _ ih =>
    rcases List.mem_cons.mp mem with rfl | mem
    · exact (List.getElem?_eq_some_iff.mp at_j).1
    · simpa only [List.length_set] using ih mem

/-- The world answers the requests of all tasks in the order of the trace. -/
theorem plays (h : Interleaved answer tasks s tr bs s') :
    answer.Plays s (tr.map Prod.snd) s' := by
  induction h with
  | finished bs s => exact .nil s
  | step _ _ ih => exact .cons ih

/-- A task that is done in front of the others changes nothing for them. -/
theorem done_cons (b : β) (h : Interleaved answer tasks s tr bs s') :
    Interleaved answer (.done b :: tasks) s (tr.map fun e => (e.1 + 1, e.2)) (b :: bs) s' := by
  induction h with
  | finished bs s => exact .finished (b :: bs) s
  | step at_i _ ih => exact .step (i := _ + 1) at_i ih

/-- Any task may make all its requests before the others. -/
theorem run_asked {i : Nat} {p : Prog S β} {b : β} {asked : List (Exchange S)} {mid : σ}
    (at_i : tasks[i]? = some p) (run : p.Runs asked b) (plays : answer.Plays s asked mid)
    (h : Interleaved answer (tasks.set i (.done b)) mid tr bs s') :
    Interleaved answer tasks s (asked.map (fun e => (i, e)) ++ tr) bs s' := by
  induction run generalizing s tasks with
  | done a =>
    cases plays
    obtain ⟨inside, same⟩ := List.getElem?_eq_some_iff.mp at_i
    rw [← same, List.set_getElem_self] at h
    exact h
  | @ask op next asked b r _ ih =>
    obtain ⟨rfl, later⟩ := Handler.plays_cons.mp plays
    obtain ⟨inside, -⟩ := List.getElem?_eq_some_iff.mp at_i
    have at_next := List.getElem?_set_self (a := next (answer op s).1) inside
    rw [← List.set_set (next (answer op s).1)] at h
    exact .step at_i (ih at_next later h)

/-- Any task may be run to its end before the others. -/
theorem run_task {i : Nat} {p : Prog S β} {b : β} {mid : σ} (at_i : tasks[i]? = some p)
    (run : p.run answer s = (some b, mid))
    (h : Interleaved answer (tasks.set i (.done b)) mid tr bs s') :
    ∃ tr', Interleaved answer tasks s tr' bs s' := by
  obtain ⟨asked, ran, plays⟩ := Prog.run_eq_some_iff.mp run
  exact ⟨_, h.run_asked at_i ran plays⟩

/-- If what is answered is told by a script, then whatever the order, the tasks are done
with the same values and make the same requests. -/
theorem agree {σ' : Type} {told : (op : S.Op) → S.Answer op} {answer' : Handler S σ'}
    {t t' : σ'} {tr' : List (Nat × Exchange S)} {bs' : List β}
    (h : Interleaved answer tasks s tr bs s') (h' : Interleaved answer' tasks t tr' bs' t')
    (heeds : ∀ e ∈ tr.map Prod.snd, e.answer = told e.op)
    (heeds' : ∀ e ∈ tr'.map Prod.snd, e.answer = told e.op) :
    bs = bs' ∧ (tr.map Prod.snd).Perm (tr'.map Prod.snd) := by
  have of_own {i : Nat} {tr : List (Nat × Exchange S)}
      (heeds : ∀ e ∈ tr.map Prod.snd, e.answer = told e.op) :
      ∀ e ∈ own i tr, e.answer = told e.op :=
    fun e mem => heeds e (List.mem_map_of_mem (mem_own.mp mem))
  have one {i : Nat} {task : Prog S β} (found : tasks[i]? = some task) :
      bs[i]? = bs'[i]? ∧ own i tr = own i tr' := by
    obtain ⟨b, at_i, run⟩ := h.runs found
    obtain ⟨b', at_i', run'⟩ := h'.runs found
    obtain ⟨same, rfl⟩ := run.unique run' (of_own heeds) (of_own heeds')
    exact ⟨at_i.trans at_i'.symm, same⟩
  constructor
  · refine List.ext_getElem? fun i => ?_
    by_cases inside : i < tasks.length
    · exact (one (List.getElem?_eq_getElem inside)).1
    · have outside := Nat.le_of_not_lt inside
      rw [List.getElem?_eq_none (h.length_eq ▸ outside),
        List.getElem?_eq_none (h'.length_eq ▸ outside)]
  · have places : ∀ e ∈ tr, e.1 ∈ List.range tasks.length :=
      fun e mem => List.mem_range.mpr (h.index_lt mem)
    have places' : ∀ e ∈ tr', e.1 ∈ List.range tasks.length :=
      fun e mem => List.mem_range.mpr (h'.index_lt mem)
    have same : (List.range tasks.length).flatMap (fun i => own i tr) =
        (List.range tasks.length).flatMap fun i => own i tr' :=
      List.flatMap_congr fun i inside =>
        (one (List.getElem?_eq_getElem (List.mem_range.mp inside))).2
    have perm := flatMap_own_perm List.nodup_range places
    rw [same] at perm
    exact perm.symm.trans (flatMap_own_perm List.nodup_range places')

end Interleaved

/-! ## A given order -/

/-- What a program is done with. -/
def Prog.value? : Prog S β → Option β
  | .done b => some b
  | _ => none

/-- Lets the tasks at the given places make their next requests, one after the other, until all
tasks are done. -/
def inOrder (answer : Handler S σ) :
    List Nat → List (Prog S β) → σ → Option (List (Nat × Exchange S) × List β × σ)
  | [], tasks, s => (tasks.mapM Prog.value?).map fun bs => ([], bs, s)
  | i :: places, tasks, s =>
    match tasks[i]? with
    | some (.ask op next) =>
      let (r, s) := answer op s
      (inOrder answer places (tasks.set i (next r)) s).map fun (tr, bs, s') =>
        ((i, ⟨op, r⟩) :: tr, bs, s')
    | _ => none

theorem eq_map_done {tasks : List (Prog S β)} {bs : List β}
    (values : tasks.mapM Prog.value? = some bs) : tasks = bs.map .done := by
  induction tasks generalizing bs with
  | nil =>
    cases values
    rfl
  | cons p tasks ih =>
    rw [List.mapM_cons] at values
    obtain ⟨b, of_p, values⟩ := Option.bind_eq_some_iff.mp values
    obtain ⟨others, rest, same⟩ := Option.bind_eq_some_iff.mp values
    cases same
    cases p with
    | done a =>
      cases of_p
      rw [ih rest, List.map_cons]
    | _ => cases of_p

/-- What comes of a given order is a run of the tasks. -/
theorem interleaved_of_inOrder {answer : Handler S σ} {places : List Nat} {tasks : List (Prog S β)}
    {s s' : σ} {tr : List (Nat × Exchange S)} {bs : List β}
    (run : inOrder answer places tasks s = some (tr, bs, s')) :
    Interleaved answer tasks s tr bs s' := by
  induction places generalizing tasks s tr with
  | nil =>
    obtain ⟨bs', values, same⟩ := Option.map_eq_some_iff.mp run
    cases same
    rw [eq_map_done values]
    exact .finished _ _
  | cons i places ih =>
    rw [inOrder] at run
    split at run
    next op next at_i =>
      obtain ⟨⟨tr', bs', last⟩, rest, same⟩ := Option.map_eq_some_iff.mp run
      cases same
      exact .step at_i (ih rest)
    · cases run

/-- To run the tasks one after the other is one of the orders, and asks the same. -/
theorem interleaved_of_runs {answer : Handler S σ} {task : α → Prog S β} {items : List α}
    {s s' : σ} {asked : List (Exchange S)} {results : List (α × β)}
    (run : (Settle.attemptAll task items).Runs asked results) (plays : answer.Plays s asked s') :
    results.map Prod.fst = items ∧ ∃ tr, tr.map Prod.snd = asked ∧
      Interleaved answer (items.map task) s tr (results.map Prod.snd) s' := by
  induction items generalizing s asked results with
  | nil =>
    obtain ⟨rfl, rfl⟩ := Prog.runs_done.mp run
    cases plays
    exact ⟨rfl, [], rfl, .finished [] _⟩
  | cons a rest ih =>
    obtain ⟨here, b, later, rfl, first, run⟩ := Prog.runs_bind.mp run
    obtain ⟨later, others, last, rfl, second, final⟩ := Prog.runs_bind.mp run
    obtain ⟨rfl, rfl⟩ := Prog.runs_done.mp final
    rw [List.append_nil] at plays
    obtain ⟨mid, began, went⟩ := Handler.plays_append.mp plays
    obtain ⟨items_eq, tr, rfl, order⟩ := ih second went
    have whole : Interleaved answer (((a :: rest).map task).set 0 (.done b)) mid _ _ s' :=
      order.done_cons b
    refine ⟨congrArg (a :: ·) items_eq, _, ?_, whole.run_asked rfl first began⟩
    simp only [List.map_append, List.map_map, Function.comp_def, List.map_id', List.append_nil]

theorem interleaved_of_attemptAll {answer : Handler S σ} {task : α → Prog S β} {items : List α}
    {s s' : σ} {results : List (α × β)}
    (run : (Settle.attemptAll task items).run answer s = (some results, s')) :
    results.map Prod.fst = items ∧
      ∃ tr, Interleaved answer (items.map task) s tr (results.map Prod.snd) s' := by
  obtain ⟨asked, ran, plays⟩ := Prog.run_eq_some_iff.mp run
  obtain ⟨items_eq, tr, -, order⟩ := interleaved_of_runs ran plays
  exact ⟨items_eq, tr, order⟩

theorem uncut_attemptAll {task : α → Prog S β} (uncut : ∀ a, (task a).Uncut) (items : List α) :
    (Settle.attemptAll task items).Uncut := by
  induction items with
  | nil => exact .done _
  | cons a rest ih => exact (uncut a).bind fun b => ih.bind fun others => .done _

end NodePools
