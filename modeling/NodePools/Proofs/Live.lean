import Mathlib.Data.List.Nodup
import NodePools.Proofs.Finished
import NodePools.Rehearsal.World

/-!
# The live stacks

A world has live stacks.  A stack that is applied goes live, in the place of the one
of its name if there is one; one that is deleted is gone; and what is listed are the
live stacks with the tags asked for.  `Keeps` holds of every handler that works in
this way, whatever else it does and whatever it refuses.

What a trace makes of the live stacks is told by the stacks that it applies and the
names that it deletes: names stay distinct, every stack was there or was applied
(`Moved.origin`), a trace without deletions leaves what it applied live
(`Moved.covers`), and one that applies nothing takes away what it deletes
(`Moved.deletes`).
-/

namespace NodePools

open Attempt (appliedBy? applied applied_nil)
open Rehearsal.World (goLive)

/-! ## One stack goes live -/

theorem mem_goLive {live : List Stack} {s x : Stack} :
    x ∈ goLive live s ↔ x = s ∨ (x ∈ live ∧ x.name ≠ s.name) := by
  unfold goLive
  split
  next there =>
    obtain ⟨old, inside, same⟩ := List.any_eq_true.mp there
    rw [beq_iff_eq] at same
    rw [List.mem_map]
    constructor
    · rintro ⟨l, mem, rfl⟩
      split
      · exact .inl rfl
      next other => exact .inr ⟨mem, other⟩
    · rintro (rfl | ⟨mem, other⟩)
      · exact ⟨old, inside, if_pos same⟩
      · exact ⟨x, mem, if_neg other⟩
  next absent =>
    have fresh : ∀ l ∈ live, l.name ≠ s.name := by
      intro l mem same
      exact absent (List.any_eq_true.mpr ⟨l, mem, beq_iff_eq.mpr same⟩)
    rw [List.mem_append, List.mem_singleton]
    constructor
    · rintro (mem | rfl)
      · exact .inr ⟨mem, fresh x mem⟩
      · exact .inl rfl
    · rintro (rfl | ⟨mem, -⟩)
      · exact .inr rfl
      · exact .inl mem

/-- A stack that goes live does not make two of one name. -/
theorem names_goLive {live : List Stack} (distinct : (live.map Stack.name).Nodup) (s : Stack) :
    ((goLive live s).map Stack.name).Nodup := by
  unfold goLive
  split
  · have names : (live.map fun l => if l.name = s.name then s else l).map Stack.name =
        live.map Stack.name := by
      rw [List.map_map]
      refine List.map_congr_left fun l _ => ?_
      show (if l.name = s.name then s else l).name = l.name
      split
      next same => exact same.symm
      · rfl
    rw [names]
    exact distinct
  next absent =>
    rw [List.map_append, List.map_singleton]
    refine List.nodup_append.mpr ⟨distinct, List.nodup_singleton _, ?_⟩
    rintro name mem _ last rfl
    rw [List.mem_singleton] at last
    obtain ⟨l, inside, same⟩ := List.mem_map.mp mem
    exact absent (List.any_eq_true.mpr ⟨l, inside, beq_iff_eq.mpr (same.trans last)⟩)

/-! ## What exchanges do to the live stacks -/

/-- The name of the stack that an exchange deleted without an error. -/
def deletedBy? : Exchange Service → Option String
  | ⟨.inl (.delete name), .ok ()⟩ => some name
  | _ => none

/-- The names of the stacks that were deleted without an error, in the order of the trace. -/
def deletions (tr : List (Exchange Service)) : List String := tr.filterMap deletedBy?

/-- How the live stacks stand after an exchange. -/
def Moves (live : List Stack) : Exchange Service → List Stack → Prop
  | ⟨.inl (.apply name _ tags), .ok ()⟩, after => ∃ status, after = goLive live ⟨name, tags, status⟩
  | ⟨.inl (.delete name), .ok ()⟩, after => after = live.filter fun s => s.name ≠ name
  | ⟨.inl (.list tags), .ok found⟩, after =>
    found = live.filter (fun s => Tags.holdAll s.tags tags) ∧ after = live
  | _, after => after = live

/-- How the live stacks stand after a trace. -/
inductive Moved : List Stack → List (Exchange Service) → List Stack → Prop
  | nil (live : List Stack) : Moved live [] live
  | cons {live mid after : List Stack} {e : Exchange Service} {tr : List (Exchange Service)} :
    Moves live e mid → Moved mid tr after → Moved live (e :: tr) after

/-- A world answers in keeping with its live stacks. -/
def Keeps {σ : Type} (answer : Handler Service σ) (live : σ → List Stack) : Prop :=
  ∀ op s, Moves (live s) ⟨op, (answer op s).1⟩ (live (answer op s).2)

theorem Keeps.moved {σ : Type} {answer : Handler Service σ} {live : σ → List Stack}
    (keeps : Keeps answer live) {s s' : σ} {tr : List (Exchange Service)}
    (plays : answer.Plays s tr s') : Moved (live s) tr (live s') := by
  induction plays with
  | nil s => exact .nil _
  | cons _ ih => exact .cons (keeps _ _) ih

/-- An exchange applies a stack, deletes one, or leaves the live stacks as they are. -/
theorem Moves.cases {live after : List Stack} {e : Exchange Service} (h : Moves live e after) :
    (∃ a status, appliedBy? e = some a ∧ deletedBy? e = none ∧
      after = goLive live ⟨a.name, a.tags, status⟩) ∨
    (∃ name, appliedBy? e = none ∧ deletedBy? e = some name ∧
      after = live.filter fun s => s.name ≠ name) ∨
    (appliedBy? e = none ∧ deletedBy? e = none ∧ after = live) := by
  obtain ⟨op | op, answer⟩ := e
  · cases op with
    | apply name document tags =>
      rcases answer with e | ⟨⟨⟩⟩
      · exact .inr (.inr ⟨rfl, rfl, h⟩)
      · obtain ⟨status, made⟩ := h
        exact .inl ⟨_, status, rfl, rfl, made⟩
    | delete name =>
      rcases answer with e | ⟨⟨⟩⟩
      · exact .inr (.inr ⟨rfl, rfl, h⟩)
      · exact .inr (.inl ⟨name, rfl, rfl, h⟩)
    | list tags =>
      rcases answer with e | found
      · exact .inr (.inr ⟨rfl, rfl, h⟩)
      · exact .inr (.inr ⟨rfl, rfl, h.2⟩)
    | _ => exact .inr (.inr ⟨rfl, rfl, h⟩)
  · exact .inr (.inr ⟨rfl, rfl, h⟩)

/-- A stack of another name than what is applied or deleted stays as it is. -/
theorem Moves.stays {live after : List Stack} {e : Exchange Service} (h : Moves live e after)
    {x : Stack} (mem : x ∈ live) (not_applied : ∀ a, appliedBy? e = some a → x.name ≠ a.name)
    (not_deleted : ∀ name, deletedBy? e = some name → x.name ≠ name) : x ∈ after := by
  rcases h.cases with ⟨a, status, by_a, -, rfl⟩ | ⟨name, -, gone, rfl⟩ | ⟨-, -, rfl⟩
  · exact mem_goLive.mpr (.inr ⟨mem, not_applied a by_a⟩)
  · exact List.mem_filter.mpr ⟨mem, decide_eq_true (not_deleted name gone)⟩
  · exact mem

namespace Moved

variable {live mid after : List Stack} {tr : List (Exchange Service)}

/-- Names stay distinct. -/
theorem names (h : Moved live tr after) (distinct : (live.map Stack.name).Nodup) :
    (after.map Stack.name).Nodup := by
  induction h with
  | nil live => exact distinct
  | cons first _ ih =>
    rcases first.cases with ⟨a, status, -, -, rfl⟩ | ⟨name, -, -, rfl⟩ | ⟨-, -, rfl⟩
    · exact ih (names_goLive distinct _)
    · exact ih (distinct.sublist (List.filter_sublist.map _))
    · exact ih distinct

/-- Every live stack was live, or was applied on the way. -/
theorem origin (h : Moved live tr after) {x : Stack} (mem : x ∈ after) :
    x ∈ live ∨ ∃ a ∈ applied tr, a.name = x.name ∧ a.tags = x.tags := by
  induction h with
  | nil live => exact .inl mem
  | @cons live mid after e tr first _ ih =>
    rcases ih mem with inside | ⟨a, later, same⟩
    · rcases first.cases with ⟨a, status, by_a, -, rfl⟩ | ⟨name, -, -, rfl⟩ | ⟨-, -, rfl⟩
      · rcases mem_goLive.mp inside with rfl | ⟨inside, -⟩
        · exact .inr ⟨a, List.mem_filterMap.mpr ⟨e, List.mem_cons_self, by_a⟩, rfl, rfl⟩
        · exact .inl inside
      · exact .inl (List.mem_filter.mp inside).1
      · exact .inl inside
    · obtain ⟨e', there, by_a⟩ := List.mem_filterMap.mp later
      exact .inr ⟨a, List.mem_filterMap.mpr ⟨e', List.mem_cons_of_mem _ there, by_a⟩, same⟩

/-- A trace that applies nothing takes away the stacks that it deletes, and no others. -/
theorem deletes (h : Moved live tr after) (nothing : applied tr = []) :
    after = live.filter fun s => s.name ∉ deletions tr := by
  induction h with
  | nil live => simp [deletions]
  | @cons live mid after e tr first _ ih =>
    obtain ⟨here, later⟩ := List.forall_mem_cons.mp (List.filterMap_eq_nil_iff.mp nothing)
    rw [ih (List.filterMap_eq_nil_iff.mpr later)]
    rcases first.cases with ⟨a, status, by_a, -, -⟩ | ⟨name, -, gone, rfl⟩ | ⟨-, none, rfl⟩
    · rw [here] at by_a
      cases by_a
    · rw [List.filter_filter, deletions, deletions, List.filterMap_cons_some gone]
      refine List.filter_congr fun s _ => ?_
      simp only [List.mem_cons, not_or, Bool.decide_and, Bool.and_comm]
    · rw [deletions, deletions, List.filterMap_cons_none none]

/-- A trace that deletes nothing keeps every name. -/
theorem stays (h : Moved live tr after) (nothing : deletions tr = []) {x : Stack} (mem : x ∈ live) :
    ∃ y ∈ after, y.name = x.name := by
  induction h generalizing x with
  | nil live => exact ⟨x, mem, rfl⟩
  | @cons live mid after e tr first _ ih =>
    obtain ⟨here, later⟩ := List.forall_mem_cons.mp (List.filterMap_eq_nil_iff.mp nothing)
    have kept : ∃ y ∈ mid, y.name = x.name := by
      rcases first.cases with ⟨a, status, -, -, rfl⟩ | ⟨name, -, gone, -⟩ | ⟨-, -, rfl⟩
      · by_cases same : x.name = a.name
        · exact ⟨_, mem_goLive.mpr (.inl rfl), same.symm⟩
        · exact ⟨x, mem_goLive.mpr (.inr ⟨mem, same⟩), rfl⟩
      · rw [here] at gone
        cases gone
      · exact ⟨x, mem, rfl⟩
    obtain ⟨y, inside, same⟩ := kept
    obtain ⟨z, last, named⟩ := ih (List.filterMap_eq_nil_iff.mpr later) inside
    exact ⟨z, last, named.trans same⟩

/-- A trace that deletes nothing leaves a stack of every name that it applied. -/
theorem covers (h : Moved live tr after) (nothing : deletions tr = []) {a : Attempt.Applied}
    (mem : a ∈ applied tr) : ∃ x ∈ after, x.name = a.name := by
  induction h with
  | nil live => cases mem
  | @cons live mid after e tr first rest ih =>
    obtain ⟨-, later⟩ := List.forall_mem_cons.mp (List.filterMap_eq_nil_iff.mp nothing)
    have silent := List.filterMap_eq_nil_iff.mpr later
    obtain ⟨e', there, by_a⟩ := List.mem_filterMap.mp mem
    rcases List.mem_cons.mp there with rfl | there
    · rcases first.cases with ⟨b, status, by_b, -, rfl⟩ | ⟨name, none, -, -⟩ | ⟨none, -, -⟩
      · cases by_b.symm.trans by_a
        exact rest.stays silent (mem_goLive.mpr (.inl rfl))
      · cases none.symm.trans by_a
      · cases none.symm.trans by_a
    · exact ih silent (List.mem_filterMap.mpr ⟨e', there, by_a⟩)

/-- After a trace that deletes nothing, a live stack of a name that it applied has tags that
it applied under that name. -/
theorem newest (h : Moved live tr after) (nothing : deletions tr = []) {x : Stack}
    (mem : x ∈ after) :
    (x ∈ live ∧ ∀ a ∈ applied tr, a.name ≠ x.name) ∨
      ∃ a ∈ applied tr, a.name = x.name ∧ a.tags = x.tags := by
  induction h with
  | nil live => exact .inl ⟨mem, fun a none => nomatch none⟩
  | @cons live mid after e tr first rest ih =>
    obtain ⟨here, later⟩ := List.forall_mem_cons.mp (List.filterMap_eq_nil_iff.mp nothing)
    have silent := List.filterMap_eq_nil_iff.mpr later
    rcases ih silent mem with ⟨inside, others⟩ | ⟨a, told, same⟩
    · rcases first.cases with ⟨a, status, by_a, -, rfl⟩ | ⟨name, -, gone, -⟩ | ⟨none, -, rfl⟩
      · rw [applied, List.filterMap_cons_some by_a]
        rcases mem_goLive.mp inside with rfl | ⟨inside, other⟩
        · exact .inr ⟨a, List.mem_cons_self, rfl, rfl⟩
        · refine .inl ⟨inside, fun b told => ?_⟩
          rcases List.mem_cons.mp told with rfl | told
          · exact other.symm
          · exact others b told
      · cases here.symm.trans gone
      · rw [applied, List.filterMap_cons_none none]
        exact .inl ⟨inside, others⟩
    · obtain ⟨e', there, by_a⟩ := List.mem_filterMap.mp told
      exact .inr ⟨a, List.mem_filterMap.mpr ⟨e', List.mem_cons_of_mem _ there, by_a⟩, same⟩

end Moved

/-! ## Attempts delete nothing -/

theorem deletions_calls (tr : List (Exchange Service)) : deletions (calls tr) = deletions tr :=
  filterMap_calls (fun _ _ => rfl) tr

section

open Attempt

variable {p : Provisioner} {values : Values} {pool : NodePool} {g last : Progress}
  {cs : List (Exchange Service)}

theorem Attempt.Takes.deletions_eq_nil {step : Step} {r : Except Error Progress}
    (takes : Takes p values pool step g cs r) : deletions cs = [] := by
  cases takes <;> rfl

/-- What no step tells of is not told by an attempt. -/
theorem Attempt.Goes.filterMap_eq_nil {γ : Type} {f : Exchange Service → Option γ}
    {steps passed : List Step} {failure : Option Error}
    (goes : Goes p values pool steps g passed cs last failure)
    (silent : ∀ {step g cs r}, Takes p values pool step g cs r → cs.filterMap f = []) :
    cs.filterMap f = [] := by
  induction goes with
  | arrived g => rfl
  | stopped takes => exact silent takes
  | passed takes _ ih =>
    rw [List.filterMap_append]
    exact List.append_eq_nil_iff.mpr ⟨silent takes, ih⟩

end

end NodePools
