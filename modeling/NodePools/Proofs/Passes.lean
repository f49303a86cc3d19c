import NodePools.Proofs.History

/-!
# Passes of reconciling one after the other

A pass of reconciling that meets a failure stops there and leaves the rest to the next
pass.  Whatever fails, and in how many passes, nothing is lost and nothing is done
twice: the stacks left over are split into those that are gone and those that
still stand, in one order (`Progressed`).  One pass progresses
(`progressed_of_run`), progress after progress is progress (`Progressed.trans`), and so
any number of passes does; a pass in which nothing fails leaves nothing over.
-/

namespace NodePools

open Prog (Runs)

/-- Whether a request was answered with an error. -/
def Exchange.failed : Exchange Service → Bool
  | ⟨.inl (.ensureBucket _), .error _⟩ | ⟨.inl (.put ..), .error _⟩
  | ⟨.inl (.apply ..), .error _⟩ | ⟨.inl (.wait ..), .error _⟩ | ⟨.inl (.list _), .error _⟩
  | ⟨.inl (.delete _), .error _⟩ | ⟨.inr (.instanceInfo _), .error _⟩
  | ⟨.inr (.convert _), .error _⟩ | ⟨.inr (.scale ..), .error _⟩ => true
  | _ => false

/-- Passes for a cluster one after the other, from one state to another, with what each
of them asked. -/
inductive Passes {σ : Type} (c : Cluster) (answer : Handler Service σ) :
    σ → List (List (Exchange Service)) → σ → Prop
  | none (s : σ) : Passes c answer s [] s
  | next {p : Provisioner} {s mid s' : σ} {tr : List (Exchange Service)}
    {traces : List (List (Exchange Service))} {r : Except Error Unit} :
    p.cluster = c → Runs p.reconcile.outcome tr r → answer.Plays s tr mid →
    Passes c answer mid traces s' → Passes c answer s (tr :: traces) s'

/-- A call that is the listing of the cluster's stacks, or the drain or the deletion of one
of the given stacks. -/
def Touches (c : Cluster) (doomed : List Stack) (e : Exchange Service) : Prop :=
  (∃ answer, e = .cloud (.list (Tags.owner c.id)) answer) ∨
    ∃ s ∈ doomed, ∃ answer, e = drained s answer ∨ e = deleted s answer

/-! ## Progress -/

/-- What a trace does about the stacks left over: those in front are gone, the others are
left, and no other stack is touched. -/
structure Progressed (c : Cluster) (live : List Stack) (tr : List (Exchange Service))
    (after gone left : List Stack) : Prop where
  splits : leftover c live = gone ++ left
  deletes : deletions tr = gone.map Stack.name
  stays : after = live.filter fun s => s ∉ gone
  touches : ∀ e ∈ calls tr, Touches c (leftover c live) e

namespace Progressed

variable {c : Cluster} {live mid after gone gone' left left' : List Stack}
  {tr tr' : List (Exchange Service)}

/-- What is still left over are the stacks that were left. -/
theorem leftover_after (h : Progressed c live tr after gone left)
    (names : (live.map Stack.name).Nodup) : leftover c after = left := by
  have distinct : (gone ++ left).Nodup := by
    rw [← h.splits]
    exact names.of_map.sublist List.filter_sublist
  have apart := (List.nodup_append.mp distinct).2.2
  have others : gone.filter (fun s => s ∉ gone) = [] := by
    refine List.filter_eq_nil_iff.mpr fun s mem absent => ?_
    exact of_decide_eq_true absent mem
  have same : left.filter (fun s => s ∉ gone) = left := by
    refine List.filter_eq_self.mpr fun s mem => decide_eq_true fun inside => ?_
    exact apart s inside s mem rfl
  calc leftover c after
      = (leftover c live).filter (fun s => s ∉ gone) := by
        rw [h.stays, leftover, leftover, List.filter_filter, List.filter_filter]
        exact List.filter_congr fun s _ => Bool.and_comm ..
    _ = left := by rw [h.splits, List.filter_append, others, same, List.nil_append]

/-- To ask nothing is no progress. -/
theorem refl (c : Cluster) (live : List Stack) :
    Progressed c live [] live [] (leftover c live) := by
  refine ⟨rfl, rfl, ?_, fun e mem => nomatch mem⟩
  exact (List.filter_eq_self.mpr fun s _ => decide_eq_true List.not_mem_nil).symm

/-- Progress after progress. -/
theorem trans (h : Progressed c live tr mid gone left) (names : (live.map Stack.name).Nodup)
    (h' : Progressed c mid tr' after gone' left') :
    Progressed c live (tr ++ tr') after (gone ++ gone') left' := by
  have remains : leftover c mid = left := h.leftover_after names
  have splits : leftover c live = gone ++ (gone' ++ left') := by
    rw [h.splits, ← remains, h'.splits]
  refine ⟨by rw [splits, List.append_assoc], ?_, ?_, fun e mem => ?_⟩
  · rw [deletions, List.filterMap_append, List.map_append, ← h.deletes, ← h'.deletes]
    rfl
  · rw [h'.stays, h.stays, List.filter_filter]
    refine List.filter_congr fun s _ => ?_
    simp only [List.mem_append, not_or, Bool.decide_and, Bool.and_comm]
  · rw [calls_append, List.mem_append] at mem
    rcases mem with mem | mem
    · exact h.touches e mem
    · rcases h'.touches e mem with listing | ⟨s, doomed, which⟩
      · exact .inl listing
      · rw [remains] at doomed
        rw [h.splits]
        exact .inr ⟨s, List.mem_append_right _ doomed, which⟩

theorem names (h : Progressed c live tr after gone left) (names : (live.map Stack.name).Nodup) :
    (after.map Stack.name).Nodup := by
  rw [h.stays]
  exact names.sublist (List.filter_sublist.map _)

end Progressed

/-! ## What one pass does -/

/-- The stacks in front are deleted, and if nothing fails there are no others. -/
theorem Decommissions.deletes {doomed : List Stack} {acts : List (Exchange Service)}
    {r : Except Error Unit} (h : Decommissions doomed acts r) :
    ∃ gone left, doomed = gone ++ left ∧ deletions acts = gone.map Stack.name ∧
      ((∀ e ∈ acts, e.failed = false) → left = [] ∧ r = .ok ()) := by
  induction h with
  | done => exact ⟨[], [], rfl, rfl, fun _ => ⟨rfl, rfl⟩⟩
  | notDrained s rest e =>
    refine ⟨[], s :: rest, rfl, rfl, fun well => ?_⟩
    cases well _ List.mem_cons_self
  | notDeleted s rest e =>
    refine ⟨[], s :: rest, rfl, rfl, fun well => ?_⟩
    cases well _ (List.mem_cons_of_mem _ List.mem_cons_self)
  | gone s _ ih =>
    obtain ⟨gone, left, rfl, deletes, ends⟩ := ih
    refine ⟨s :: gone, left, rfl, congrArg (s.name :: ·) deletes, fun well => ends fun e mem => ?_⟩
    exact well e (List.mem_cons_of_mem _ (List.mem_cons_of_mem _ mem))

section

variable {σ : Type} {answer : Handler Service σ} {live : σ → List Stack} {c : Cluster} {s s' : σ}

/-- A pass progresses, and leaves nothing over if nothing fails. -/
theorem progressed_of_run (keeps : Keeps answer live) (names : ((live s).map Stack.name).Nodup)
    {p : Provisioner} {tr : List (Exchange Service)} {r : Except Error Unit}
    (run : Runs p.reconcile.outcome tr r) (plays : answer.Plays s tr s') :
    ∃ gone left, Progressed p.cluster (live s) tr (live s') gone left ∧
      ((∀ e ∈ tr, e.failed = false) → left = [] ∧ r = .ok ()) := by
  have moved := (keeps.moved plays).deletes (applied_of_reconcile run)
  rcases runs_reconcile run with ⟨e, rfl, rfl⟩ | ⟨listed, rest, rfl, taken⟩
  · have same : live s' = live s := moved.trans
      (List.filter_eq_self.mpr fun s _ => decide_eq_true List.not_mem_nil)
    have stands := Progressed.refl p.cluster (live s)
    refine ⟨[], _, ⟨stands.splits, rfl, same.trans stands.stays, fun e mem => ?_⟩, fun well => ?_⟩
    · rw [List.mem_singleton.mp mem]
      exact .inl ⟨_, rfl⟩
    · cases well _ List.mem_cons_self
  have all : listed = (live s).filter fun t => Tags.holdAll t.tags (Tags.owner p.cluster.id) := by
    have told := keeps (.inl (.list (Tags.owner p.cluster.id))) s
    rw [← (Handler.plays_cons.mp plays).1] at told
    exact told.1
  rw [all, orphans_eq_leftover] at taken
  obtain ⟨gone, left, splits, deletes, ends⟩ := taken.deletes
  have deletions_eq :
      deletions (.cloud (.list (Tags.owner p.cluster.id)) (.ok listed) :: rest) =
        gone.map Stack.name := by
    rw [← deletes, deletions_calls]
    rfl
  refine ⟨gone, left, ⟨splits, deletions_eq, ?_, fun e mem => ?_⟩, fun well => ends fun e mem => ?_⟩
  · rw [moved, deletions_eq]
    refine List.filter_congr fun t mem => decide_eq_decide.mpr (not_congr ?_)
    refine ⟨fun named => ?_, List.mem_map_of_mem⟩
    obtain ⟨t', inside, same⟩ := List.mem_map.mp named
    have doomed : t' ∈ leftover p.cluster (live s) := splits ▸ List.mem_append_left _ inside
    rwa [← List.inj_on_of_nodup_map names (List.mem_filter.mp doomed).1 mem same]
  · rcases List.mem_cons.mp mem with rfl | mem
    · exact .inl ⟨_, rfl⟩
    · exact .inr (taken.of_mem mem)
  · exact well e (List.mem_cons_of_mem _ (List.mem_filter.mp mem).1)

/-- Any number of passes progresses. -/
theorem Passes.progressed (keeps : Keeps answer live) {traces : List (List (Exchange Service))}
    (passes : Passes c answer s traces s') (names : ((live s).map Stack.name).Nodup) :
    ∃ gone left, Progressed c (live s) traces.flatten (live s') gone left := by
  induction passes with
  | none s => exact ⟨[], _, Progressed.refl c (live s)⟩
  | next same run plays _ ih =>
    subst same
    obtain ⟨gone, left, first, -⟩ := progressed_of_run keeps names run plays
    obtain ⟨gone', left', rest⟩ := ih (first.names names)
    exact ⟨_, _, first.trans names rest⟩

end

/-- Where nothing is left over, passes only list. -/
theorem Progressed.lists {c : Cluster} {live after gone left : List Stack}
    {tr : List (Exchange Service)} (h : Progressed c live tr after gone left)
    (nothing : leftover c live = []) {e : Exchange Service} (mem : e ∈ calls tr) :
    ∃ answer, e = .cloud (.list (Tags.owner c.id)) answer := by
  rcases h.touches e mem with listing | ⟨s, doomed, _⟩
  · exact listing
  · rw [nothing] at doomed
    cases doomed

/-- Whatever fails in any number of passes, after one more in which nothing fails the live
stacks are those that were live before without those left over, each of these has
been deleted once and in their order, and no other stack has been touched; and from
then on passes only list. -/
theorem passes_take_down_leftover {σ : Type} {answer : Handler Service σ} {live : σ → List Stack}
    {p : Provisioner} {s s₁ s₂ : σ} {traces : List (List (Exchange Service))}
    {tr : List (Exchange Service)} {r : Except Error Unit} (keeps : Keeps answer live)
    (names : ((live s).map Stack.name).Nodup) (passes : Passes p.cluster answer s traces s₁)
    (run : Runs p.reconcile.outcome tr r) (plays : answer.Plays s₁ tr s₂)
    (well : ∀ e ∈ tr, e.failed = false) :
    r = .ok () ∧
    live s₂ = (live s).filter (fun x => x ∉ leftover p.cluster (live s)) ∧
    deletions (traces.flatten ++ tr) = (leftover p.cluster (live s)).map Stack.name ∧
    (∀ e ∈ calls (traces.flatten ++ tr), Touches p.cluster (leftover p.cluster (live s)) e) ∧
    ∀ later s₃, Passes p.cluster answer s₂ later s₃ → live s₃ = live s₂ ∧
      ∀ e ∈ calls later.flatten, ∃ answer, e = .cloud (.list (Tags.owner p.cluster.id)) answer := by
  obtain ⟨gone, left, before⟩ := passes.progressed keeps names
  obtain ⟨gone', left', pass, ends⟩ := progressed_of_run keeps (before.names names) run plays
  obtain ⟨rfl, rfl⟩ := ends well
  have whole := before.trans names pass
  have all : leftover p.cluster (live s) = gone ++ gone' := by
    rw [whole.splits, List.append_nil]
  refine ⟨rfl, all ▸ whole.stays, all ▸ whole.deletes, whole.touches, fun later s₃ more => ?_⟩
  have nothing := whole.leftover_after names
  obtain ⟨gone'', left'', further⟩ := more.progressed keeps (whole.names names)
  refine ⟨?_, fun e mem => further.lists nothing mem⟩
  obtain ⟨rfl, -⟩ := List.append_eq_nil_iff.mp (further.splits.symm.trans nothing)
  rw [further.stays]
  exact List.filter_eq_self.mpr fun x _ => decide_eq_true List.not_mem_nil

/-- A world that keeps live stacks, in which so many drains fail first. -/
def stumbling : Handler Service (Nat × List Stack)
  | .inr (.scale ..), (stumbles + 1, live) =>
    (Except.error (.scaling (.described "pods refused to evict")), (stumbles, live))
  | op, (stumbles, live) => ((tending op live).1, (stumbles, (tending op live).2))

theorem keeps_stumbling : Keeps stumbling Prod.snd := by
  rintro (op | op) ⟨_ | stumbles, live⟩
  · exact keeps_tending (.inl op) live
  · exact keeps_tending (.inl op) live
  · cases op <;> exact keeps_tending _ live
  · cases op with
    | scale pool replicas => rfl
    | _ => exact keeps_tending _ live

/-- When no drain fails any more, nothing does. -/
theorem stumbling_well {live : List Stack} {s : Nat × List Stack} {tr : List (Exchange Service)}
    (plays : stumbling.Plays (0, live) tr s) : ∀ e ∈ tr, e.failed = false := by
  generalize start : (0, live) = s₀ at plays
  induction plays generalizing live with
  | nil s => exact fun e mem => nomatch mem
  | @cons s s' op tr _ ih =>
    subst start
    refine List.forall_mem_cons.mpr ⟨?_, ?_⟩
    · rcases op with op | op <;> cases op <;> rfl
    · rcases op with op | op <;> cases op <;> exact ih rfl

/-- The first pass fails, and the second one takes down what is left over. -/
theorem twoWorkers_second_pass : ∃ traces tr s₁ s₂,
    traces.length = 1 ∧ Passes twoWorkers.cluster stumbling (1, threeLive) traces s₁ ∧
      stumbling.Plays s₁ tr s₂ ∧ (∀ e ∈ tr, e.failed = false) ∧
      deletions (traces.flatten ++ tr) = ["nodepool-old-kube"] ∧
      s₂.2.map Stack.name = ["nodepool-plain-kube", "database"] := by
  obtain ⟨r₁, s₁, first⟩ := (uncut_reconcile twoWorkers).run stumbling (1, threeLive)
  obtain ⟨tr₁, runs₁, plays₁⟩ := Prog.run_eq_some_iff.mp first
  obtain ⟨r₂, s₂, second⟩ := (uncut_reconcile twoWorkers).run stumbling s₁
  obtain ⟨tr₂, runs₂, plays₂⟩ := Prog.run_eq_some_iff.mp second
  have stumbled : s₁.1 = 0 := by
    have told : (twoWorkers.reconcile.outcome.run stumbling (1, threeLive)).2.1 = 0 := by
      decide +kernel
    rwa [first] at told
  obtain ⟨_, live⟩ := s₁
  cases stumbled
  have well := stumbling_well plays₂
  have passes : Passes twoWorkers.cluster stumbling (1, threeLive) [tr₁] (0, live) :=
    .next rfl runs₁ plays₁ (.none _)
  obtain ⟨-, stays, deletes, -, -⟩ := passes_take_down_leftover keeps_stumbling (by decide) passes
    runs₂ plays₂ well
  refine ⟨[tr₁], tr₂, _, s₂, rfl, passes, plays₂, well, deletes.trans (by decide), ?_⟩
  rw [stays]
  decide

end NodePools
