import Mathlib.Data.List.Perm.Basic
import Mathlib.Logic.Hydra
import NodePools.Proofs.Interleaving
import NodePools.Proofs.Interpretation

/-!
# Workers that share tasks

`Settle.mapSettled` has a task for every item.  Here a number of workers share them: a worker that
is free takes any task that nobody has begun, and the tasks that are underway make their requests
and end in any order.  Meanwhile the caller takes the results in the order of the items, up to the
first task that was aborted, but is not back before all tasks have ended.  A `Step` is one thing
that happens so, and a `Course` is what happens one after the other.

Every course comes to its end (`wellFounded_step`), and only a caller that is back leaves nothing
to be done (`Sound.goes_on`).  By then each task was begun once and has asked what it asks in a run
to its own outcome, and what the caller is back with is told by the outcomes in the order of the
items, whatever ended first (`settled_by_workers`).
-/

namespace NodePools.Settle

open Prog (Runs Uncut)
open Relation (CutExpand)

variable {S : Signature} {α β ε κ σ : Type}

/-! ## What happens among workers -/

/-- Where the task of an item stands. -/
inductive Stage (S : Signature) (β : Type) where
  | waiting (task : Prog S β)
  | underway (rest : Prog S β)
  | ended (b : β)

/-- Whether a worker is busy with a task. -/
def Stage.isUnderway : Stage S β → Bool
  | .underway _ => true
  | _ => false

/-- What the caller is at: it takes results in order, or it knows what it comes back with and waits
for the tasks to end, or it is back. -/
inductive Caller (α ε κ β : Type) where
  | taking (results : List (Settled α ε β))
  | leaving (r : Except κ (List (Settled α ε β)))
  | back (r : Except κ (List (Settled α ε β)))

/-- The caller behind one more task, of which it takes the outcome. -/
def Caller.take (results : List (Settled α ε β)) (a : α) : Outcome ε κ β → Caller α ε κ β
  | .value b => .taking (results ++ [⟨a, .ok b⟩])
  | .failed e => .taking (results ++ [⟨a, .error e⟩])
  | .aborted k => .leaving (.error k)

/-- Tasks that workers share, with the caller and the world. -/
structure Crew (S : Signature) (α ε κ β σ : Type) where
  stages : List (Stage S (Outcome ε κ β))
  caller : Caller α ε κ β
  world : σ

/-- Before anything has happened. -/
def Crew.opening (task : α → Prog S (Outcome ε κ β)) (items : List α) (s : σ) :
    Crew S α ε κ β σ :=
  ⟨items.map fun a => .waiting (task a), .taking [], s⟩

/-- What may happen: to the task at a place, or to the caller. -/
inductive Event (S : Signature) where
  | begun (place : Nat)
  | asked (place : Nat) (e : Exchange S)
  | ended (place : Nat)
  | taken
  | decided
  | returned

/-- The places of the tasks that were begun, one for each time. -/
def begunAt (es : List (Event S)) : List Nat :=
  es.filterMap fun
    | .begun i => some i
    | _ => none

/-- What the tasks have asked. -/
def exchanges (es : List (Event S)) : List (Nat × Exchange S) :=
  es.filterMap fun
    | .asked i e => some (i, e)
    | _ => none

/-- One thing happens among so many workers.  No task is begun while all of them are busy, and the
caller is not back before all tasks have ended. -/
inductive Step (answer : Handler S σ) (count : Int) (items : List α) :
    Crew S α ε κ β σ → Event S → Crew S α ε κ β σ → Prop
  | begins {stages : List (Stage S (Outcome ε κ β))} {caller : Caller α ε κ β} {s : σ} {i : Nat}
    {task : Prog S (Outcome ε κ β)} : stages[i]? = some (.waiting task) →
      (stages.countP Stage.isUnderway : Int) < count →
      Step answer count items ⟨stages, caller, s⟩ (.begun i)
        ⟨stages.set i (.underway task), caller, s⟩
  | asks {stages : List (Stage S (Outcome ε κ β))} {caller : Caller α ε κ β} {s : σ} {i : Nat}
    {op : S.Op} {next : S.Answer op → Prog S (Outcome ε κ β)} :
      stages[i]? = some (.underway (.ask op next)) →
      Step answer count items ⟨stages, caller, s⟩ (.asked i ⟨op, (answer op s).1⟩)
        ⟨stages.set i (.underway (next (answer op s).1)), caller, (answer op s).2⟩
  | ends {stages : List (Stage S (Outcome ε κ β))} {caller : Caller α ε κ β} {s : σ} {i : Nat}
    {b : Outcome ε κ β} : stages[i]? = some (.underway (.done b)) →
      Step answer count items ⟨stages, caller, s⟩ (.ended i) ⟨stages.set i (.ended b), caller, s⟩
  | takes {stages : List (Stage S (Outcome ε κ β))} {results : List (Settled α ε β)} {s : σ}
    {a : α} {b : Outcome ε κ β} : items[results.length]? = some a →
      stages[results.length]? = some (.ended b) →
      Step answer count items ⟨stages, .taking results, s⟩ .taken
        ⟨stages, Caller.take results a b, s⟩
  | decides {stages : List (Stage S (Outcome ε κ β))} {results : List (Settled α ε β)} {s : σ} :
      results.length = items.length →
      Step answer count items ⟨stages, .taking results, s⟩ .decided
        ⟨stages, .leaving (.ok results), s⟩
  | returns {stages : List (Stage S (Outcome ε κ β))} {s : σ}
    {r : Except κ (List (Settled α ε β))} : (∀ stage ∈ stages, ∃ b, stage = .ended b) →
      Step answer count items ⟨stages, .leaving r, s⟩ .returned ⟨stages, .back r, s⟩

/-- What happens one after the other from a first crew on. -/
inductive Course (answer : Handler S σ) (count : Int) (items : List α)
    (first : Crew S α ε κ β σ) : List (Event S) → Crew S α ε κ β σ → Prop
  | start : Course answer count items first [] first
  | step {es : List (Event S)} {e : Event S} {crew next : Crew S α ε κ β σ} :
    Course answer count items first es crew → Step answer count items crew e next →
      Course answer count items first (es ++ [e]) next

variable {answer : Handler S σ} {count : Int} {items : List α} {task : α → Prog S (Outcome ε κ β)}
  {s : σ} {es : List (Event S)} {e : Event S} {crew next : Crew S α ε κ β σ}

@[simp] theorem begunAt_append (es es' : List (Event S)) :
    begunAt (es ++ es') = begunAt es ++ begunAt es' :=
  List.filterMap_append ..

@[simp] theorem exchanges_append (es es' : List (Event S)) :
    exchanges (es ++ es') = exchanges es ++ exchanges es' :=
  List.filterMap_append ..

/-! ## What a step does to a task -/

/-- A stage of a task comes next behind another one. -/
inductive Stage.Next : Stage S β → Stage S β → Prop
  | begun (task : Prog S β) : Next (.underway task) (.waiting task)
  | asked {op : S.Op} {next : S.Answer op → Prog S β} (r : S.Answer op) :
    Next (.underway (next r)) (.underway (.ask op next))
  | ended (b : β) : Next (.ended b) (.underway (.done b))

/-- What has been done of a task that stands at a stage: what it has asked, and how often it was
begun. -/
def Stage.Follows (task : Prog S β) (asked : List (Exchange S)) (begun : Nat) :
    Stage S β → Prop
  | .waiting p => p = task ∧ asked = [] ∧ begun = 0
  | .underway p => begun = 1 ∧ ∀ more b, p.Runs more b → task.Runs (asked ++ more) b
  | .ended b => begun = 1 ∧ task.Runs asked b

/-- What is left of a task at a stage is not cut off. -/
def Stage.Uncut : Stage S β → Prop
  | .waiting p | .underway p => p.Uncut
  | .ended _ => True

/-- A step takes one task on by a stage, or moves the caller and nothing else. -/
inductive Step.Kind (answer : Handler S σ) (items : List α) (crew : Crew S α ε κ β σ) (e : Event S)
    (next : Crew S α ε κ β σ) : Prop
  | task (i : Nat) (before after : Stage S (Outcome ε κ β)) (found : crew.stages[i]? = some before)
    (onward : after.Next before) (stages : next.stages = crew.stages.set i after)
    (caller : next.caller = crew.caller)
    (world : answer.Plays crew.world ((exchanges [e]).map Prod.snd) next.world)
    (follows : ∀ task asked begun, before.Follows task asked begun →
      after.Follows task (asked ++ own i (exchanges [e])) (begun + (begunAt [e]).count i))
    (others : ∀ j, j ≠ i → own j (exchanges [e]) = [] ∧ (begunAt [e]).count j = 0)
  | caller (stages : next.stages = crew.stages) (world : next.world = crew.world)
    (asked : exchanges [e] = []) (begun : begunAt [e] = [])

theorem Step.kind (step : Step answer count items crew e next) :
    Step.Kind answer items crew e next := by
  cases step with
  | @begins stages caller s i task found free =>
    refine .task i _ _ found (.begun task) rfl rfl (.nil s) ?_ fun j other => ⟨rfl, ?_⟩
    · rintro _ _ _ ⟨rfl, rfl, rfl⟩
      exact ⟨by simp [begunAt], fun more b run => run⟩
    · simp [begunAt, other.symm]
  | @asks stages caller s i op rest found =>
    refine .task i _ _ found (.asked _) rfl rfl (.cons (.nil _)) ?_ fun j other => ⟨?_, rfl⟩
    · rintro task asked begun ⟨once, runs⟩
      refine ⟨once, fun more b run => ?_⟩
      have own_one : own i (exchanges [Event.asked i ⟨op, (answer op s).1⟩]) =
          [⟨op, (answer op s).1⟩] := own_cons_self ..
      rw [own_one, List.append_assoc]
      exact runs _ b (.ask _ run)
    · exact own_cons_other (Ne.symm other) ..
  | @ends stages caller s i b found =>
    refine .task i _ _ found (.ended b) rfl rfl (.nil s) ?_ fun j other => ⟨rfl, rfl⟩
    rintro task asked begun ⟨once, runs⟩
    exact ⟨once, runs [] b (.done b)⟩
  | takes | decides | returns => exact .caller rfl rfl rfl rfl

/-! ## There is an end -/

theorem Stage.acc_underway (p : Prog S β) : Acc Stage.Next (.underway p) := by
  induction p with
  | done b =>
    refine .intro _ fun _ onward => ?_
    cases onward
    exact .intro _ fun _ further => nomatch further
  | ask op next ih =>
    refine .intro _ fun _ onward => ?_
    cases onward with
    | asked r => exact ih r
  | cut => exact .intro _ fun _ onward => nomatch onward

theorem Stage.wellFounded_next : WellFounded (Stage.Next (S := S) (β := β)) := by
  refine ⟨fun stage => ?_⟩
  cases stage with
  | waiting p =>
    refine .intro _ fun _ onward => ?_
    cases onward
    exact acc_underway p
  | underway p => exact acc_underway p
  | ended b => exact .intro _ fun _ onward => nomatch onward

/-- How many steps the caller may still take. -/
def Caller.left (items : Nat) : Caller α ε κ β → Nat
  | .taking results => items - results.length + 2
  | .leaving _ => 1
  | .back _ => 0

/-- A list in which one member is replaced by a smaller one is smaller. -/
theorem cutExpand_set {γ : Type} {r : γ → γ → Prop} {l : List γ} {i : Nat} {a a' : γ}
    (found : l[i]? = some a) (less : r a' a) :
    CutExpand r (l.set i a' : Multiset γ) (l : Multiset γ) := by
  obtain ⟨inside, rfl⟩ := List.getElem?_eq_some_iff.mp found
  have after : (l.set i a' : Multiset γ) = {a'} + (l.eraseIdx i : Multiset γ) :=
    Multiset.coe_eq_coe.mpr (List.set_perm_cons_eraseIdx inside a')
  have before : (l : Multiset γ) = {l[i]} + (l.eraseIdx i : Multiset γ) :=
    Multiset.coe_eq_coe.mpr (List.getElem_cons_eraseIdx_perm inside).symm
  rw [after, before]
  exact Relation.cutExpand_single_add less _

/-- Nothing goes on for ever: a step takes one task on, or else the caller. -/
theorem wellFounded_step (answer : Handler S σ) (count : Int) (items : List α) :
    WellFounded fun next crew : Crew S α ε κ β σ => ∃ e, Step answer count items crew e next := by
  have order := Stage.wellFounded_next (S := S) (β := Outcome ε κ β) |>.cutExpand.prod_lex
    (wellFounded_lt (α := Nat))
  refine Subrelation.wf ?_ (InvImage.wf
    (fun crew : Crew S α ε κ β σ => ((crew.stages : Multiset _), crew.caller.left items.length))
    order)
  rintro next crew ⟨e, step⟩
  cases step with
  | begins found => exact .left _ _ (cutExpand_set found (.begun _))
  | asks found => exact .left _ _ (cutExpand_set found (.asked _))
  | ends found => exact .left _ _ (cutExpand_set found (.ended _))
  | @takes stages results s a b found ended =>
    obtain ⟨inside, -⟩ := List.getElem?_eq_some_iff.mp found
    refine .right _ ?_
    cases b with
    | aborted k => exact Nat.one_lt_succ_succ _
    | _ =>
      simp only [Caller.take, Caller.left, List.length_append, List.length_singleton]
      omega
  | decides => exact .right _ (Nat.one_lt_succ_succ _)
  | returns => exact .right _ Nat.one_pos

/-! ## What the caller is told -/

/-- Outcomes for all tasks, among them those that there are already. -/
structure Completes (stages : List (Stage S β)) (bs : List β) : Prop where
  length : bs.length = stages.length
  ended : ∀ (i : Nat) (b : β), stages[i]? = some (.ended b) → bs[i]? = some b

/-- What the caller has taken or knows is what is gathered from outcomes. -/
def Caller.Gathers (outcomes : List (α × Outcome ε κ β)) : Caller α ε κ β → Prop
  | .taking results => results.length ≤ outcomes.length ∧
    gather outcomes = (gather (outcomes.drop results.length)).map (results ++ ·)
  | .leaving r | .back r => gather outcomes = r

theorem Completes.of_next {stages : List (Stage S β)} {bs : List β} {i : Nat}
    {before after : Stage S β} (found : stages[i]? = some before) (onward : after.Next before)
    (h : Completes (stages.set i after) bs) : Completes stages bs where
  length := h.length.trans List.length_set
  ended j b ended := by
    refine h.ended j b ((List.getElem?_set_ne ?_).trans ended)
    rintro rfl
    cases found.symm.trans ended
    cases onward

theorem completes_ended (bs : List β) : Completes (bs.map (Stage.ended (S := S))) bs where
  length := (List.length_map ..).symm
  ended i b ended := by
    rw [List.getElem?_map] at ended
    obtain ⟨b', there, same⟩ := Option.map_eq_some_iff.mp ended
    cases same
    exact there

theorem Caller.Gathers.take {outcomes : List (α × Outcome ε κ β)} {results : List (Settled α ε β)}
    {a : α} {b : Outcome ε κ β} (h : (Caller.taking results).Gathers outcomes)
    (found : outcomes[results.length]? = some (a, b)) :
    (Caller.take results a b).Gathers outcomes := by
  obtain ⟨inside, here⟩ := List.getElem?_eq_some_iff.mp found
  obtain ⟨-, told⟩ := h
  rw [List.drop_eq_getElem_cons inside, here] at told
  have more (x : Except ε β) (rest : Except κ (List (Settled α ε β))) :
      (rest.map (⟨a, x⟩ :: ·)).map (results ++ ·) = rest.map (results ++ [⟨a, x⟩] ++ ·) := by
    cases rest with
    | error k => rfl
    | ok others => simp [Except.map]
  cases b with
  | aborted k => exact told
  | value b =>
    refine ⟨List.length_append ▸ inside, ?_⟩
    rw [told, gather, more, List.length_append, List.length_singleton]
  | failed e =>
    refine ⟨List.length_append ▸ inside, ?_⟩
    rw [told, gather, more, List.length_append, List.length_singleton]

/-! ## What is so in the course of things -/

/-- What is so of a crew, by all that has happened: of each task, of the caller and of the world. -/
structure Sound (answer : Handler S σ) (task : α → Prog S (Outcome ε κ β)) (items : List α) (s : σ)
    (es : List (Event S)) (crew : Crew S α ε κ β σ) : Prop where
  length : crew.stages.length = items.length
  follows : ∀ (i : Nat) (a : α), items[i]? = some a → ∃ stage, crew.stages[i]? = some stage ∧
    stage.Follows (task a) (own i (exchanges es)) ((begunAt es).count i)
  gathers : ∀ bs, Completes crew.stages bs → crew.caller.Gathers (items.zip bs)
  back : ∀ r, crew.caller = .back r → ∀ stage ∈ crew.stages, ∃ b, stage = .ended b
  plays : answer.Plays s ((exchanges es).map Prod.snd) crew.world

theorem sound_opening (answer : Handler S σ) (task : α → Prog S (Outcome ε κ β)) (items : List α)
    (s : σ) : Sound answer task items s [] (.opening task items s) where
  length := List.length_map ..
  follows i a found := by
    refine ⟨.waiting (task a), ?_, rfl, rfl, rfl⟩
    rw [Crew.opening, List.getElem?_map, found, Option.map_some]
  gathers bs _ := by
    refine ⟨Nat.zero_le _, ?_⟩
    show gather _ = (gather (items.zip bs)).map id
    cases gather (items.zip bs) <;> rfl
  back _ h := by cases h
  plays := .nil s

/-- What is so of a crew is so behind one more step. -/
theorem Sound.step (sound : Sound answer task items s es crew)
    (step : Step answer count items crew e next) : Sound answer task items s (es ++ [e]) next := by
  have plays (world : answer.Plays crew.world ((exchanges [e]).map Prod.snd) next.world) :
      answer.Plays s ((exchanges (es ++ [e])).map Prod.snd) next.world := by
    rw [exchanges_append, List.map_append]
    exact Handler.plays_append.mpr ⟨_, sound.plays, world⟩
  cases step.kind with
  | task i before after found onward stages caller world follows others =>
    obtain ⟨inside, -⟩ := List.getElem?_eq_some_iff.mp found
    refine ⟨?_, fun j a of_j => ?_, fun bs completes => ?_, fun r back => ?_, plays world⟩
    · rw [stages, List.length_set, sound.length]
    · obtain ⟨stage, there, so_far⟩ := sound.follows j a of_j
      rw [stages, exchanges_append, own_append, begunAt_append, List.count_append]
      by_cases same : j = i
      · subst same
        cases found.symm.trans there
        exact ⟨after, List.getElem?_set_self inside, follows _ _ _ so_far⟩
      · obtain ⟨asked, begun⟩ := others j same
        rw [asked, begun, List.append_nil, Nat.add_zero, List.getElem?_set_ne (Ne.symm same)]
        exact ⟨stage, there, so_far⟩
    · rw [stages] at completes
      rw [caller]
      exact sound.gathers bs (completes.of_next found onward)
    · -- a caller that is back leaves no task that could go on
      obtain ⟨b, rfl⟩ := sound.back r (caller ▸ back) before (List.mem_of_getElem? found)
      cases onward
  | caller stages world asked begun =>
    refine ⟨stages ▸ sound.length, fun j a of_j => ?_, fun bs completes => ?_, fun r back => ?_,
      plays ?_⟩
    · rw [stages, exchanges_append, begunAt_append, asked, begun, List.append_nil, List.append_nil]
      exact sound.follows j a of_j
    · have gathers := sound.gathers bs (stages ▸ completes)
      cases step with
      | begins | asks | ends => exact gathers
      | takes found ended =>
        refine gathers.take (List.getElem?_zip_eq_some.mpr ⟨found, ?_⟩)
        exact completes.ended _ _ ended
      | @decides stages results s all =>
        obtain ⟨-, told⟩ := gathers
        have short : (items.zip bs).length ≤ results.length := by
          rw [List.length_zip, all]
          exact Nat.min_le_left ..
        rw [List.drop_eq_nil_of_le short] at told
        exact told.trans (congrArg Except.ok (List.append_nil _))
      | returns => exact gathers
    · rw [stages]
      cases step with
      | begins | asks | ends => exact sound.back r back
      | @takes _ results _ a b =>
        cases b <;> cases back
      | decides => cases back
      | returns all => exact all
    · rw [asked, world]
      exact .nil _

theorem Course.sound (course : Course answer count items (.opening task items s) es crew) :
    Sound answer task items s es crew := by
  induction course with
  | start => exact sound_opening ..
  | step _ step ih => exact ih.step step

theorem Stage.Next.uncut {before after : Stage S β} (onward : after.Next before)
    (uncut : before.Uncut) : after.Uncut := by
  cases onward with
  | begun => exact uncut
  | asked r =>
    cases uncut with
    | ask each => exact each r
  | ended => trivial

theorem Course.uncut (uncut : ∀ a ∈ items, (task a).Uncut)
    (course : Course answer count items (.opening task items s) es crew) :
    ∀ stage ∈ crew.stages, stage.Uncut := by
  induction course with
  | start => exact List.forall_mem_map.mpr uncut
  | step _ step ih =>
    cases step.kind with
    | task i before after found onward stages =>
      rw [stages]
      intro stage mem
      rcases List.mem_or_eq_of_mem_set mem with mem | rfl
      · exact ih stage mem
      · exact onward.uncut (ih before (List.mem_of_getElem? found))
    | caller stages => exact stages ▸ ih

/-- Tasks that have ended have outcomes. -/
theorem exists_outcomes {stages : List (Stage S β)} (all : ∀ stage ∈ stages, ∃ b, stage = .ended b) :
    ∃ bs : List β, stages = bs.map .ended := by
  induction stages with
  | nil => exact ⟨[], rfl⟩
  | cons stage rest ih =>
    obtain ⟨⟨b, rfl⟩, others⟩ := List.forall_mem_cons.mp all
    obtain ⟨bs, rfl⟩ := ih others
    exact ⟨b :: bs, rfl⟩

/-- As long as the caller is not back something can happen, if there is a worker for the tasks and
no task is cut off. -/
theorem Sound.goes_on (sound : Sound answer task items s es crew)
    (uncut : ∀ stage ∈ crew.stages, stage.Uncut) (worker : items ≠ [] → 1 ≤ count)
    (away : ∀ r, crew.caller ≠ .back r) : ∃ e next, Step answer count items crew e next := by
  obtain ⟨stages, caller, world⟩ := crew
  by_cases busy : ∃ p, .underway p ∈ stages
  · obtain ⟨p, mem⟩ := busy
    obtain ⟨i, found⟩ := List.mem_iff_getElem?.mp mem
    cases p with
    | done b => exact ⟨_, _, .ends found⟩
    | ask op rest => exact ⟨_, _, .asks found⟩
    | cut => cases uncut _ mem
  by_cases idle : ∃ p, .waiting p ∈ stages
  · obtain ⟨p, mem⟩ := idle
    obtain ⟨i, found⟩ := List.mem_iff_getElem?.mp mem
    have free : stages.countP Stage.isUnderway = 0 := by
      refine List.countP_eq_zero.mpr fun stage mem' underway => ?_
      cases stage with
      | underway p => exact busy ⟨p, mem'⟩
      | _ => cases underway
    have some_item : items ≠ [] := by
      rintro rfl
      have none : stages = [] := List.length_eq_zero_iff.mp sound.length
      rw [none] at mem
      cases mem
    refine ⟨_, _, .begins found ?_⟩
    rw [free]
    exact worker some_item
  have all : ∀ stage ∈ stages, ∃ b, stage = .ended b := fun stage mem => by
    cases stage with
    | waiting p => exact absurd ⟨p, mem⟩ idle
    | underway p => exact absurd ⟨p, mem⟩ busy
    | ended b => exact ⟨b, rfl⟩
  obtain ⟨bs, rfl⟩ := exists_outcomes all
  cases caller with
  | back r => exact absurd rfl (away r)
  | leaving r => exact ⟨_, _, .returns all⟩
  | taking results =>
    have same : bs.length = items.length := List.length_map (Stage.ended (S := S)) ▸ sound.length
    obtain ⟨most, -⟩ := sound.gathers bs (completes_ended bs)
    rw [List.length_zip, same, Nat.min_self] at most
    rcases Nat.lt_or_eq_of_le most with less | full
    · refine ⟨_, _, .takes (List.getElem?_eq_getElem less) (b := bs[results.length]) ?_⟩
      rw [List.getElem?_map, List.getElem?_eq_getElem (same ▸ less), Option.map_some]
    · exact ⟨_, _, .decides full⟩

/-! ## What the outcomes tell -/

/-- How a task ends that is not aborted. -/
def endOf : Except ε β → Outcome ε κ β
  | .ok b => .value b
  | .error e => .failed e

/-- Without an aborted task there is a result for every item in order, by the outcome of its
task. -/
theorem gather_settled {outcomes : List (α × Outcome ε κ β)}
    (none : ∀ e ∈ outcomes, ∀ k, e.2 ≠ .aborted k) :
    ∃ results, gather outcomes = .ok results ∧
      results.map (fun x => (x.item, endOf x.result)) = outcomes := by
  induction outcomes with
  | nil => exact ⟨[], rfl, rfl⟩
  | cons e rest ih =>
    obtain ⟨here, none⟩ := List.forall_mem_cons.mp none
    obtain ⟨results, told, same⟩ := ih none
    obtain ⟨a, b | e | k⟩ := e
    · refine ⟨⟨a, .ok b⟩ :: results, ?_, congrArg (_ :: ·) same⟩
      rw [gather, told]
      rfl
    · refine ⟨⟨a, .error e⟩ :: results, ?_, congrArg (_ :: ·) same⟩
      rw [gather, told]
      rfl
    · exact absurd rfl (here k)

/-- The first aborted task by the order of the items is what counts. -/
theorem gather_aborted {outcomes : List (α × Outcome ε κ β)} {i : Nat} {a : α} {k : κ}
    (found : outcomes[i]? = some (a, .aborted k))
    (first : ∀ j < i, ∀ a k, outcomes[j]? ≠ some (a, .aborted k)) : gather outcomes = .error k := by
  induction outcomes generalizing i with
  | nil => cases found
  | cons e rest ih =>
    cases i with
    | zero =>
      cases found
      rfl
    | succ i =>
      have told : gather rest = .error k :=
        ih found fun j before => first (j + 1) (Nat.succ_lt_succ before)
      obtain ⟨a', b | e | k'⟩ := e
      · rw [gather, told]
        rfl
      · rw [gather, told]
        rfl
      · exact absurd rfl (first 0 (Nat.succ_pos i) a' k')

/-- What a caller is back with, by what has happened and the outcomes of the tasks. -/
structure Account (task : α → Prog S (Outcome ε κ β)) (items : List α) (es : List (Event S))
    (r : Except κ (List (Settled α ε β))) (outcomes : List (Outcome ε κ β)) : Prop where
  /-- There are no other outcomes than those of the tasks. -/
  length : outcomes.length = items.length
  /-- The task of each item was begun once, and its outcome is that of what it has asked. -/
  once : ∀ (i : Nat) (a : α), items[i]? = some a → (begunAt es).count i = 1 ∧
    ∃ b, outcomes[i]? = some b ∧ (task a).Runs (own i (exchanges es)) b
  /-- If none was aborted there is a result for every item in order, by its own outcome. -/
  settled : (∀ b ∈ outcomes, ∀ k, b ≠ .aborted k) → ∃ results, r = .ok results ∧
    results.map (fun x => (x.item, endOf x.result)) = items.zip outcomes
  /-- Otherwise the first aborted one by the order of the items is what counts. -/
  aborted : ∀ (i : Nat) (k : κ), outcomes[i]? = some (.aborted k) →
    (∀ j < i, ∀ k, outcomes[j]? ≠ some (.aborted k)) → r = .error k
  /-- The same comes of the tasks one after the other, if each asks what it has asked here. -/
  inOrder : (mapSettled task items).Runs
    ((List.range items.length).flatMap fun i => own i (exchanges es)) r

theorem Sound.account {r : Except κ (List (Settled α ε β))}
    (sound : Sound answer task items s es crew) (back : crew.caller = .back r) :
    ∃ outcomes, Account task items es r outcomes := by
  obtain ⟨outcomes, stages⟩ := exists_outcomes (sound.back r back)
  have length : outcomes.length = items.length := by
    rw [← sound.length, stages, List.length_map]
  have told : gather (items.zip outcomes) = r := by
    have gathers := sound.gathers outcomes (stages ▸ completes_ended outcomes)
    rw [back] at gathers
    exact gathers
  have once (i : Nat) (a : α) (found : items[i]? = some a) : (begunAt es).count i = 1 ∧
      ∃ b, outcomes[i]? = some b ∧ (task a).Runs (own i (exchanges es)) b := by
    obtain ⟨stage, there, so_far⟩ := sound.follows i a found
    rw [stages, List.getElem?_map] at there
    obtain ⟨b, outcome, rfl⟩ := Option.map_eq_some_iff.mp there
    exact ⟨so_far.1, b, outcome, so_far.2⟩
  refine ⟨outcomes, length, once, fun none => ?_, fun i k found first => ?_, ?_⟩
  · have none_zipped : ∀ e ∈ items.zip outcomes, ∀ k, e.2 ≠ .aborted k :=
      fun e mem => none e.2 (List.of_mem_zip mem).2
    obtain ⟨results, ok, same⟩ := gather_settled none_zipped
    exact ⟨results, told.symm.trans ok, same⟩
  · obtain ⟨inside, -⟩ := List.getElem?_eq_some_iff.mp found
    have there := List.getElem?_eq_getElem (length ▸ inside)
    refine told.symm.trans (gather_aborted (List.getElem?_zip_eq_some.mpr ⟨there, found⟩) ?_)
    exact fun j before a k zipped => first j before k (List.getElem?_zip_eq_some.mp zipped).2
  · have size : (items.zip outcomes).length = items.length := by
      rw [List.length_zip, length, Nat.min_self]
    refine Prog.runs_map.mpr ⟨items.zip outcomes, runs_attemptAll.mpr ⟨?_, ?_⟩, told.symm⟩
    · exact List.map_fst_zip (Nat.le_of_eq length.symm)
    · rw [← size]
      refine .of_places fun i e found => ?_
      obtain ⟨item, outcome⟩ := List.getElem?_zip_eq_some.mp found
      obtain ⟨-, b, same, run⟩ := once i e.1 item
      cases outcome.symm.trans same
      exact run

/-- A caller that is back leaves nothing that could happen. -/
theorem Sound.rests {r : Except κ (List (Settled α ε β))}
    (sound : Sound answer task items s es crew) (back : crew.caller = .back r) :
    ¬ Step answer count items crew e next := by
  intro step
  have ended {i : Nat} {stage : Stage S (Outcome ε κ β)} (found : crew.stages[i]? = some stage) :
      ∃ b, stage = .ended b :=
    sound.back r back stage (List.mem_of_getElem? found)
  cases step with
  | begins found | asks found | ends found =>
    obtain ⟨b, same⟩ := ended found
    cases same
  | takes | decides | returns => cases back

/-- What tasks that workers share come to, however they go on. -/
structure Settles (answer : Handler S σ) (count : Int) (task : α → Prog S (Outcome ε κ β))
    (items : List α) (s : σ) : Prop where
  /-- Nothing goes on for ever. -/
  ends : WellFounded fun next crew : Crew S α ε κ β σ => ∃ e, Step answer count items crew e next
  /-- Something can happen until the caller is back. -/
  goesOn : ∀ es crew, Course answer count items (.opening task items s) es crew →
    (∀ r, crew.caller ≠ .back r) → ∃ e next, Step answer count items crew e next
  /-- By then nothing more can happen. -/
  rests : ∀ es crew r, Course answer count items (.opening task items s) es crew →
    crew.caller = .back r → ∀ e next, ¬ Step answer count items crew e next
  /-- What the caller is back with is told by the outcomes of the tasks. -/
  account : ∀ es crew r, Course answer count items (.opening task items s) es crew →
    crew.caller = .back r → ∃ outcomes, Account task items es r outcomes

/-- Tasks are settled by any number of workers from one on, or by as many as there are tasks. -/
theorem settled_by_workers (answer : Handler S σ) (task : α → Prog S (Outcome ε κ β))
    (items : List α) (s : σ) (asked : Option Int) (worker : ∀ n, asked = some n → 1 ≤ n)
    (uncut : ∀ a ∈ items, (task a).Uncut) :
    ∃ count, workers asked items.length = .ok count ∧ Settles answer count task items s := by
  have enough : items ≠ [] → 1 ≤ asked.getD items.length := by
    intro some_item
    cases asked with
    | some n => exact worker n rfl
    | none => exact Int.ofNat_le.mpr (List.length_pos_iff.mpr some_item)
  refine ⟨asked.getD items.length, if_neg ?_, ?_⟩
  · rintro ⟨some_task, too_few⟩
    have := enough (List.length_pos_iff.mp some_task)
    omega
  · exact {
      ends := wellFounded_step answer _ items
      goesOn := fun es crew course away => course.sound.goes_on (course.uncut uncut) enough away
      rests := fun es crew r course back e next => course.sound.rests back
      account := fun es crew r course back => course.sound.account back }

/-- A world that answers how often it was asked before. -/
def counting : Handler ⟨Unit, fun _ => Nat⟩ Nat := fun _ n => (n, n + 1)

/-- A task that asks once and is aborted unless it is the first one. -/
def knock (name : String) : Prog ⟨Unit, fun _ => Nat⟩ (Outcome String String Nat) :=
  .ask () fun n => .done (if name = "a" then .value n else .aborted name)

/-- Of three tasks that two workers share the last one is aborted while the second one has not
asked yet.  The caller is back with what the second one is aborted with. -/
theorem settled_by_two_workers : ∃ es crew outcomes,
    Course counting 2 ["a", "b", "c"] (.opening knock ["a", "b", "c"] 0) es crew ∧
    crew.caller = .back (.error "b") ∧
    Account knock ["a", "b", "c"] es (.error "b") outcomes := by
  obtain ⟨count, two, settles⟩ := settled_by_workers counting knock ["a", "b", "c"] 0 (some 2)
    (fun n two => by cases two; decide) fun a _ => .ask fun n => .done _
  cases two
  have opening : Course counting 2 ["a", "b", "c"] (.opening knock ["a", "b", "c"] 0) [] _ := .start
  have course := opening
    |>.step (.begins (i := 0) rfl (by decide))
    |>.step (.begins (i := 1) rfl (by decide))
    |>.step (.asks (i := 0) rfl)
    |>.step (.ends (i := 0) rfl)
    |>.step (.begins (i := 2) rfl (by decide))
    |>.step (.asks (i := 2) rfl)
    |>.step (.ends (i := 2) rfl)
    |>.step (.asks (i := 1) rfl)
    |>.step (.ends (i := 1) rfl)
    |>.step (.takes rfl rfl)
    |>.step (.takes rfl rfl)
    |>.step (.returns (by simp))
  obtain ⟨outcomes, account⟩ := settles.account _ _ _ course rfl
  exact ⟨_, _, outcomes, course, rfl, account⟩

end NodePools.Settle
