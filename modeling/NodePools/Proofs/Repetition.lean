import NodePools.Proofs.History
import NodePools.Proofs.KeyedWrites
import NodePools.Proofs.Publishing

/-!
# Provisioning once more

A control loop provisions the same cluster over and over.  If what is answered is told by a
script, the second run asks what the first one asked, in whatever order, and so it writes what
is there already: stacks go live in the places of stacks with their names and tags
(`Moved.shown_eq`), documents are applied under names that have them, and objects are stored in
places that hold them, as keys are made from the content.  So the second run changes nothing and
ends as the first one did (`provision_again_changes_nothing`), also where pools fail.
-/

namespace NodePools

open Attempt Provisioner
open Prog (Runs)
open Rehearsal.World (goLive)

/-! ## Live stacks that are applied once more -/

/-- The names and tags of stacks, in their order. -/
def shown (live : List Stack) : List (String × Tags) := live.map fun x => (x.name, x.tags)

/-- A stack is shown under its name, and what is shown under this name has its tags. -/
def Bears (listed : List (String × Tags)) (a : Applied) : Prop :=
  (a.name, a.tags) ∈ listed ∧ ∀ e ∈ listed, e.1 = a.name → e.2 = a.tags

/-- A stack that goes live in the place of one with its tags shows nothing new. -/
theorem shown_goLive {live : List Stack} {a : Applied} (bears : Bears (shown live) a)
    (status : String) : shown (goLive live ⟨a.name, a.tags, status⟩) = shown live := by
  obtain ⟨there, same⟩ := bears
  obtain ⟨x, inside, named⟩ := List.mem_map.mp there
  have present : live.any (fun l => l.name == a.name) = true :=
    List.any_eq_true.mpr ⟨x, inside, beq_iff_eq.mpr (Prod.mk.inj named).1⟩
  rw [goLive, if_pos present, shown, List.map_map]
  refine List.map_congr_left fun l mem => ?_
  by_cases named : l.name = a.name
  · have tags := same (l.name, l.tags) (List.mem_map_of_mem mem) named
    simp only [Function.comp_apply, if_pos named, Prod.mk.injEq]
    exact ⟨named.symm, tags.symm⟩
  · simp only [Function.comp_apply, if_neg named]

/-- A trace that deletes nothing and applies what is shown already shows nothing new. -/
theorem Moved.shown_eq {live after : List Stack} {tr : List (Exchange Service)}
    (moved : Moved live tr after) (nothing : deletions tr = [])
    (bears : ∀ a ∈ applied tr, Bears (shown live) a) : shown after = shown live := by
  induction moved with
  | nil live => rfl
  | @cons live mid after e tr first _ ih =>
    obtain ⟨here, later⟩ := List.forall_mem_cons.mp (List.filterMap_eq_nil_iff.mp nothing)
    have inside {a : Applied} (mem : a ∈ applied tr) : a ∈ applied (e :: tr) := by
      obtain ⟨e', there, by_a⟩ := List.mem_filterMap.mp mem
      exact List.mem_filterMap.mpr ⟨e', List.mem_cons_of_mem _ there, by_a⟩
    have same : shown mid = shown live := by
      rcases first.cases with ⟨a, status, by_a, -, rfl⟩ | ⟨name, -, gone, -⟩ | ⟨-, -, rfl⟩
      · exact shown_goLive (bears a (List.mem_filterMap.mpr ⟨e, List.mem_cons_self, by_a⟩)) status
      · cases here.symm.trans gone
      · rfl
    rw [ih (List.filterMap_eq_nil_iff.mpr later) fun a mem => same ▸ bears a (inside mem), same]

/-- A trace that deletes nothing shows what it applied, if it applied nothing else under the same
name. -/
theorem Moved.bears {live after : List Stack} {tr : List (Exchange Service)}
    (moved : Moved live tr after) (nothing : deletions tr = []) {a : Applied} (mem : a ∈ applied tr)
    (only : ∀ b ∈ applied tr, b.name = a.name → b = a) : Bears (shown after) a := by
  have tags {x : Stack} (inside : x ∈ after) (named : x.name = a.name) : x.tags = a.tags := by
    rcases moved.newest nothing inside with ⟨-, others⟩ | ⟨b, told, same, tagged⟩
    · exact absurd named.symm (others a mem)
    · rw [← tagged, only b told (same.trans named)]
  constructor
  · obtain ⟨x, inside, named⟩ := moved.covers nothing mem
    refine List.mem_map.mpr ⟨x, inside, ?_⟩
    rw [named, tags inside named]
  · intro e listed named
    obtain ⟨x, inside, rfl⟩ := List.mem_map.mp listed
    exact tags inside named

/-! ## A world that remembers -/

variable {σ : Type}

/-- A world that answers as a script tells, but for what it lists; in which what is applied goes
live; and that keeps a ledger. -/
structure Remembers (told : (op : Service.Op) → Service.Answer op) (answer : Handler Service σ)
    (live : σ → List Stack) (ledger : σ → Ledger) : Prop where
  answers : ∀ op s, (∀ tags, op ≠ .inl (.list tags)) → (answer op s).1 = told op
  keeps : Keeps answer live
  after : ∀ op s, ledger (answer op s).2 = (ledger s).after ⟨op, (answer op s).1⟩

/-- The tags by which an exchange listed stacks. -/
def listedBy? : Exchange Service → Option Tags
  | ⟨.inl (.list tags), _⟩ => some tags
  | _ => none

/-- Provisioning lists nothing. -/
theorem Provisioner.Provisions.lists_nothing {p : Provisioner} {values : Values}
    {answer : Handler Service σ} {s s' : σ} {tr : List (Option Nat × Exchange Service)}
    {r : Except Error Unit} (run : Provisions p values answer s tr r s') :
    ∀ e ∈ tr.map Prod.snd, ∀ tags, e.op ≠ .inl (.list tags) := by
  have none := run.filterMap_eq_nil (f := listedBy?) (fun _ _ => rfl) fun takes => by
    cases takes <;> rfl
  rintro ⟨op, answer⟩ mem tags rfl
  cases List.filterMap_eq_nil_iff.mp none _ mem

section

variable {told : (op : Service.Op) → Service.Answer op} {answer : Handler Service σ}
  {live : σ → List Stack} {ledger : σ → Ledger} {p : Provisioner} {values : Values}
  {s s₁ s₂ : σ} {tr tr' : List (Option Nat × Exchange Service)} {r r' : Except Error Unit}

namespace Remembers

theorem heeds (remembers : Remembers told answer live ledger)
    (run : Provisions p values answer s tr r s₁) :
    ∀ e ∈ tr.map Prod.snd, e.answer = told e.op := by
  have each := run.plays.forall_mem
    (P := fun e : Exchange Service => (∀ tags, e.op ≠ .inl (.list tags)) → e.answer = told e.op) remembers.answers
  exact fun e mem => each e mem (run.lists_nothing e mem)

theorem objects_eq (remembers : Remembers told answer live ledger)
    {asked : List (Exchange Service)} (plays : answer.Plays s asked s₁) :
    (ledger s₁).objects = (stored asked).foldl holding (ledger s).objects := by
  have stores : Stores answer (Ledger.objects ∘ ledger) := fun op s => by
    rw [Function.comp_apply, remembers.after]
    rfl
  exact stores.after plays

theorem applied_eq (remembers : Remembers told answer live ledger)
    {asked : List (Exchange Service)} (plays : answer.Plays s asked s₁) :
    (ledger s₁).applied =
      (applied asked).foldl (written Applied.name id) (ledger s).applied := by
  have applies : ∀ op s, (Ledger.applied ∘ ledger) (answer op s).2 =
      (appliedBy? ⟨op, (answer op s).1⟩).elim ((Ledger.applied ∘ ledger) s)
        (written Applied.name id ((Ledger.applied ∘ ledger) s)) := fun op s => by
    rw [Function.comp_apply, remembers.after]
    rfl
  exact plays.foldl_view applies

theorem mem_buckets (remembers : Remembers told answer live ledger)
    {asked : List (Exchange Service)} (plays : answer.Plays s asked s₁) {bucket : String} :
    bucket ∈ (ledger s₁).buckets ↔
      bucket ∈ (ledger s).buckets ∨ bucket ∈ asked.filterMap madeBy? := by
  induction plays with
  | nil s => simp
  | @cons s s' op asked _ ih =>
    rw [ih, remembers.after, Ledger.after]
    cases of_op : madeBy? ⟨op, (answer op s).1⟩ with
    | none => rw [List.filterMap_cons_none of_op, Option.elim_none]
    | some made =>
      rw [List.filterMap_cons_some of_op, Option.elim_some, Finset.mem_insert, List.mem_cons]
      tauto

/-- Any two runs that come one after the other end alike and ask the same. -/
theorem agree (remembers : Remembers told answer live ledger)
    (run : Provisions p values answer s tr r s₁) (again : Provisions p values answer s₁ tr' r' s₂) :
    r' = r ∧ (tr'.map Prod.snd).Perm (tr.map Prod.snd) := by
  obtain ⟨rfl, perm⟩ := run.agree again (remembers.heeds run) (remembers.heeds again)
  exact ⟨rfl, perm.symm⟩

end Remembers

/-- What is the same in two states: the names and tags of the live stacks in their order, what was
applied under each name, and the buckets. -/
structure SameAgain (live : σ → List Stack) (ledger : σ → Ledger) (s₁ s₂ : σ) : Prop where
  live_eq : shown (live s₂) = shown (live s₁)
  applied_eq : (ledger s₂).applied = (ledger s₁).applied
  buckets_eq : (ledger s₂).buckets = (ledger s₁).buckets

namespace Remembers

/-- A second run changes none of the stacks and buckets. -/
theorem sameAgain (remembers : Remembers told answer live ledger)
    (run : Provisions p values answer s tr r s₁) (again : Provisions p values answer s₁ tr' r' s₂) :
    SameAgain live ledger s₁ s₂ := by
  have perm := (remembers.agree run again).2
  have before {a : Applied} (mem : a ∈ applied (tr'.map Prod.snd)) :
      a ∈ applied (tr.map Prod.snd) := (perm.filterMap appliedBy?).mem_iff.mp mem
  refine ⟨?_, ?_, ?_⟩
  · refine (remembers.keeps.moved again.plays).shown_eq again.deletions_eq_nil fun a mem => ?_
    refine (remembers.keeps.moved run.plays).bears run.deletions_eq_nil (before mem) ?_
    exact fun b mem' named => run.applied_inj mem' (before mem) named
  · rw [remembers.applied_eq again.plays]
    refine written_present fun a mem => ?_
    rw [remembers.applied_eq run.plays]
    exact written_of_mem (before mem) (fun b mem' named => run.applied_inj mem' (before mem) named) _
  · ext bucket
    rw [remembers.mem_buckets again.plays, remembers.mem_buckets run.plays,
      (perm.filterMap madeBy?).mem_iff]
    tauto

/-- A second run changes none of the objects, if the digest does not give one value for two of
the contents. -/
theorem objects_same (remembers : Remembers told answer live ledger)
    (run : Provisions p values answer s tr r s₁) (again : Provisions p values answer s₁ tr' r' s₂)
    (distinct : ∀ x ∈ stored (tr.map Prod.snd), ∀ y ∈ stored (tr.map Prod.snd),
      Digest.sha512Hex x.content = Digest.sha512Hex y.content → x.content = y.content) :
    (ledger s₂).objects = (ledger s₁).objects := by
  have perm := (remembers.agree run again).2
  rw [remembers.objects_eq again.plays, holding_eq]
  refine written_present fun x mem => ?_
  rw [remembers.objects_eq run.plays]
  refine holding_of_mem ((perm.filterMap storedBy?).mem_iff.mp mem) (fun x mem y mem' place => ?_) _
  rw [(run.of_mem_stored mem).1, (run.of_mem_stored mem').1] at place
  exact distinct x mem y mem' ((String.append_left_inj _).mp (Prod.mk.inj place).2)

/-- If the attempts are made one after the other, a second run asks the same in the same order,
and changes none of the objects. -/
theorem objects_same_of_runs (remembers : Remembers told answer live ledger)
    (run : (p.provision values).outcome.run answer s = (some r, s₁))
    (again : (p.provision values).outcome.run answer s₁ = (some r', s₂)) :
    (ledger s₂).objects = (ledger s₁).objects := by
  obtain ⟨asked, ran, plays⟩ := Prog.run_eq_some_iff.mp run
  obtain ⟨asked', ran', plays'⟩ := Prog.run_eq_some_iff.mp again
  obtain ⟨tr, rfl, first⟩ := provisions_of_runs ran plays
  obtain ⟨tr', rfl, second⟩ := provisions_of_runs ran' plays'
  obtain ⟨same, -⟩ := ran.unique ran' (remembers.heeds first) (remembers.heeds second)
  rw [remembers.objects_eq plays', ← same, remembers.objects_eq plays, holding_eq, written_twice]

end Remembers

end

/-- If what is answered is told by a script, provisioning comes to an end, and to provision the
same once more ends in the same way, and changes neither the live stacks, nor what is applied to
each of them, nor the buckets and objects.  This is so for all orders of the requests in both
runs, for objects as long as the digest does not give one value for two of the contents. -/
theorem provision_again_changes_nothing (p : Provisioner) (values : Values)
    (told : (op : Service.Op) → Service.Answer op) (answer : Handler Service σ)
    (live : σ → List Stack) (ledger : σ → Ledger) (remembers : Remembers told answer live ledger)
    (s : σ) :
    (∃ r s₁ s₂, (p.provision values).outcome.run answer s = (some r, s₁) ∧
      (p.provision values).outcome.run answer s₁ = (some r, s₂) ∧ SameAgain live ledger s₁ s₂ ∧
      (ledger s₂).objects = (ledger s₁).objects) ∧
    ∀ tr r s₁ tr' r' s₂, Provisions p values answer s tr r s₁ →
      Provisions p values answer s₁ tr' r' s₂ →
      r' = r ∧ SameAgain live ledger s₁ s₂ ∧
      ((∀ x ∈ stored (tr.map Prod.snd), ∀ y ∈ stored (tr.map Prod.snd),
        Digest.sha512Hex x.content = Digest.sha512Hex y.content → x.content = y.content) →
        (ledger s₂).objects = (ledger s₁).objects) := by
  constructor
  · obtain ⟨r, s₁, run⟩ := (uncut_provision p values).run answer s
    obtain ⟨r', s₂, again⟩ := (uncut_provision p values).run answer s₁
    obtain ⟨tr, first⟩ := provisions_of_run run
    obtain ⟨tr', second⟩ := provisions_of_run again
    obtain ⟨rfl, -⟩ := remembers.agree first second
    exact ⟨r', s₁, s₂, run, again, remembers.sameAgain first second,
      remembers.objects_same_of_runs run again⟩
  · intro tr r s₁ tr' r' s₂ run again
    exact ⟨(remembers.agree run again).1, remembers.sameAgain run again,
      remembers.objects_same run again⟩

/-- A world that answers as a script tells, but lists what is live, and keeps a ledger. -/
def recording (told : (op : Service.Op) → Service.Answer op) : Handler Service (List Stack × Ledger)
  | .inl (.list tags), (live, ledger) =>
    (Except.ok (live.filter fun s => Tags.holdAll s.tags tags), live, ledger)
  | op, (live, ledger) => (told op, settled live ⟨op, told op⟩, ledger.after ⟨op, told op⟩)
where
  settled (live : List Stack) : Exchange Service → List Stack
    | ⟨.inl (.apply name _ tags), .ok ()⟩ => goLive live ⟨name, tags, "CREATE_COMPLETE"⟩
    | ⟨.inl (.delete name), .ok ()⟩ => live.filter fun s => s.name ≠ name
    | _ => live

theorem remembers_recording (told : (op : Service.Op) → Service.Answer op) :
    Remembers told (recording told) Prod.fst Prod.snd where
  answers op s unlisted := by
    rcases op with op | op
    · cases op with
      | list tags => exact absurd rfl (unlisted tags)
      | _ => rfl
    · rfl
  keeps op s := by
    rcases op with op | op
    · cases op with
      | apply name document tags =>
        show Moves s.1 ⟨_, told _⟩ (recording.settled s.1 ⟨_, told _⟩)
        rcases told (.inl (.apply name document tags)) with _ | ⟨⟩
        · rfl
        · exact ⟨_, rfl⟩
      | delete name =>
        show Moves s.1 ⟨_, told _⟩ (recording.settled s.1 ⟨_, told _⟩)
        rcases told (.inl (.delete name)) with _ | ⟨⟩ <;> rfl
      | list tags => exact ⟨rfl, rfl⟩
      | _ => rfl
    · rfl
  after op s := by
    rcases op with op | op
    · cases op <;> rfl
    · rfl

set_option maxRecDepth 100000 in
/-- With one of two pools refused each time, the stack of the other one is made once. -/
theorem twoWorkers_provisioned_twice :
    Remembers (refusing "nodepool-bidding-kube") (recording (refusing "nodepool-bidding-kube"))
      Prod.fst Prod.snd ∧
    ∃ r s₁ s₂,
      (twoWorkers.provision []).outcome.run (recording (refusing "nodepool-bidding-kube"))
        ([], ⟨∅, fun _ => none, fun _ => none, 0⟩) = (some r, s₁) ∧
      (twoWorkers.provision []).outcome.run (recording (refusing "nodepool-bidding-kube")) s₁ =
        (some r, s₂) ∧
      SameAgain Prod.fst Prod.snd s₁ s₂ ∧ s₂.2.objects = s₁.2.objects ∧
      namesOfFailures (some r) = ["bidding"] ∧
      (shown s₂.1).map Prod.fst = ["nodepool-plain-kube"] := by
  have remembers := remembers_recording (refusing "nodepool-bidding-kube")
  obtain ⟨⟨r, s₁, s₂, run, again, same, objects⟩, -⟩ :=
    provision_again_changes_nothing twoWorkers [] (refusing "nodepool-bidding-kube") _ Prod.fst
      Prod.snd remembers ([], ⟨∅, fun _ => none, fun _ => none, 0⟩)
  have ended : namesOfFailures ((twoWorkers.provision []).outcome.run
        (recording (refusing "nodepool-bidding-kube"))
        ([], ⟨∅, fun _ => none, fun _ => none, 0⟩)).1 = ["bidding"] ∧
      (shown ((twoWorkers.provision []).outcome.run
        (recording (refusing "nodepool-bidding-kube"))
        ([], ⟨∅, fun _ => none, fun _ => none, 0⟩)).2.1).map Prod.fst = ["nodepool-plain-kube"] := by
    decide +kernel
  rw [run] at ended
  refine ⟨remembers, r, s₁, s₂, run, again, same, objects, ended.1, ?_⟩
  rw [same.live_eq]
  exact ended.2

end NodePools
