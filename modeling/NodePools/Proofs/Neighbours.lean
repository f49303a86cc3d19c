import NodePools.Proofs.History

/-!
# Clusters that share an account

The stacks of several clusters live side by side, and runs for any of them may be under
way at the same time.  A run recognises its stacks by their tags, which tell the
cluster, but it applies a stack by its name, which is the name of the pool and the id of
the cluster joined by a hyphen.  The tags of two ids are never taken for each other
(`Tags.holdAll_owner_encode_iff`).  Names may be: `stackName_ne_iff` says when they
cannot, and different ids are not enough (`one_name_for_two_clusters`).

As long as no two names coincide, a run leaves the stacks of another cluster alone
(`runs_leave_neighbours`).
-/

namespace NodePools

open Attempt Provisioner
open Prog (Runs)

/-! ## Names and tags of two clusters -/

/-- How the names of a cluster's stacks end. -/
def ending (id : String) : List Char := '-' :: id.toList.map fun x => if x = ':' then '-' else x

theorem toList_stackName (c : Cluster) (p : NodePool) :
    (stackName c p).toList = "nodepool-".toList ++ (p.name.toList ++ ending c.id) := by
  simp only [stackName, String.toList_append, String.toList_ofList, List.append_assoc]
  rfl

theorem stackName_eq_iff_append {c d : Cluster} {p q : NodePool} :
    stackName c p = stackName d q ↔
      p.name.toList ++ ending c.id = q.name.toList ++ ending d.id := by
  rw [← String.toList_inj, toList_stackName, toList_stackName, List.append_right_inj]

/-- The stacks of two clusters have different names, whatever the pools, if and only if the
names of neither end like those of the other. -/
theorem stackName_ne_iff {a b : String} :
    (∀ c d : Cluster, c.id = a → d.id = b → ∀ p ∈ c.pools, ∀ q ∈ d.pools,
      stackName c p ≠ stackName d q) ↔ ¬ending a <:+ ending b ∧ ¬ending b <:+ ending a := by
  have of_suffix {a b : String} (h : ending a <:+ ending b) : ∃ c d : Cluster, c.id = a ∧
      d.id = b ∧ ∃ p ∈ c.pools, ∃ q ∈ d.pools, stackName c p = stackName d q := by
    obtain ⟨more, joined⟩ := h
    let p := NodePool.identified (String.ofList ('x' :: more)) "worker"
    let q := NodePool.identified "x" "worker"
    refine ⟨⟨a, "", [p], List.nodup_singleton _⟩, ⟨b, "", [q], List.nodup_singleton _⟩, rfl, rfl,
      p, List.mem_singleton_self _, q, List.mem_singleton_self _, stackName_eq_iff_append.mpr ?_⟩
    have name : p.name.toList = 'x' :: more := String.toList_ofList
    have name' : q.name.toList = ['x'] := String.toList_ofList
    rw [name, name', ← joined]
    rfl
  constructor
  · intro apart
    constructor
    · intro h
      obtain ⟨c, d, id, id', p, inside, q, inside', same⟩ := of_suffix h
      exact apart c d id id' p inside q inside' same
    · intro h
      obtain ⟨d, c, id', id, q, inside', p, inside, same⟩ := of_suffix h
      exact apart c d id id' p inside q inside' same.symm
  · rintro ⟨not_a, not_b⟩ c d rfl rfl p - q - same
    have joined := stackName_eq_iff_append.mp same
    have here : ending c.id <:+ q.name.toList ++ ending d.id := ⟨_, joined⟩
    rcases List.suffix_or_suffix_of_suffix here (List.suffix_append ..) with h | h
    · exact not_a h
    · exact not_b h

/-- A pool's tags are those of no other cluster. -/
theorem Tags.holdAll_owner_encode_iff {id id' : String} {p : NodePool} :
    Tags.holdAll (Tags.encode id p) (Tags.owner id') = true ↔ id = id' := by
  constructor
  · intro held
    have found := (Tags.holdAll_owner.mp held).1
    rw [Tags.encode_eq, Fields.get?] at found
    split at found
    next same => exact (String.append_right_inj _).mp same
    · rw [Fields.get?, if_neg (Tags.clusterKey_ne_roleKey id').symm, Fields.get?,
        if_neg (Tags.clusterKey_ne_nameKey id').symm, Fields.get?,
        if_neg (Tags.clusterKey_ne_legacyNameKey id').symm, Fields.get?,
        if_neg (Tags.clusterKey_ne_profileKey id').symm] at found
      cases found
  · rintro rfl
    exact Tags.holdAll_owner_encode id p

/-! ## Worlds in which only what is applied comes to be live -/

/-- Only what is applied comes to be live, whatever is answered to that and whatever else
happens to the live stacks. -/
def OnlyApplied {σ : Type} (answer : Handler Service σ) (live : σ → List Stack) : Prop :=
  ∀ op s, ∀ x ∈ live (answer op s).2,
    x ∈ live s ∨ ∃ document, op = .inl (.apply x.name document x.tags)

theorem eq_of_appliedBy? {e : Exchange Service} {a : Applied} (h : appliedBy? e = some a) :
    e = .cloud (.apply a.name a.document a.tags) (.ok ()) := by
  unfold appliedBy? at h
  split at h
  · cases h
    rfl
  · cases h

section

variable {σ : Type} {answer : Handler Service σ} {live : σ → List Stack}

theorem Keeps.onlyApplied (keeps : Keeps answer live) : OnlyApplied answer live := by
  intro op s x mem
  rcases (keeps op s).cases with ⟨a, status, by_a, -, made⟩ | ⟨name, -, -, made⟩ | ⟨-, -, made⟩
  · rw [made] at mem
    rcases mem_goLive.mp mem with rfl | ⟨mem, -⟩
    · exact .inr ⟨a.document, congrArg Exchange.op (eq_of_appliedBy? by_a)⟩
    · exact .inl mem
  · rw [made] at mem
    exact .inl (List.mem_filter.mp mem).1
  · exact .inl (made ▸ mem)

/-- Every live stack was live, or has been applied on the way. -/
theorem OnlyApplied.origin (only : OnlyApplied answer live) {s s' : σ}
    {tr : List (Exchange Service)} (plays : answer.Plays s tr s') {x : Stack} (mem : x ∈ live s') :
    x ∈ live s ∨ ∃ document told, .cloud (.apply x.name document x.tags) told ∈ tr := by
  induction plays with
  | nil s => exact .inl mem
  | @cons s s' op tr _ ih =>
    rcases ih mem with there | ⟨document, told, asked⟩
    · rcases only op s x there with old | ⟨document, rfl⟩
      · exact .inl old
      · exact .inr ⟨document, _, List.mem_cons_self⟩
    · exact .inr ⟨document, told, List.mem_cons_of_mem _ asked⟩

end

/-! ## Runs in a world that they share -/

/-- What a run for a cluster asks, with its answers, in some world. -/
inductive RunFor (c : Cluster) : List (Exchange Service) → Prop
  | provision {σ : Type} {p : Provisioner} {values : Values} {answer : Handler Service σ}
    {s s' : σ} {tr : List (Option Nat × Exchange Service)} {r : Except Error Unit} :
    p.cluster = c → Provisions p values answer s tr r s' → RunFor c (tr.map Prod.snd)
  | reconcile {p : Provisioner} {tr : List (Exchange Service)} {r : Except Error Unit} :
    p.cluster = c → Runs p.reconcile.outcome tr r → RunFor c tr

/-- Runs for clusters in a world that they share: each has asked the beginning of what it
asks, in any order with the requests of the others.  The trace tells by their places
whose each exchange is. -/
structure Shared {σ : Type} (answer : Handler Service σ) (runs : List Cluster) (s : σ)
    (tr : List (Nat × Exchange Service)) (s' : σ) : Prop where
  plays : answer.Plays s (tr.map Prod.snd) s'
  inside : ∀ e ∈ tr, e.1 < runs.length
  begun : ∀ i c, runs[i]? = some c → ∃ whole, RunFor c whole ∧ own i tr <+: whole

/-- Whether an exchange is the drain of a pool or the deletion of a stack, whatever came
of it. -/
def Exchange.takesDown : Exchange Service → Bool
  | ⟨.inr (.scale ..), _⟩ | ⟨.inl (.delete _), _⟩ => true
  | _ => false

theorem takesDown_of_deletedBy? {e : Exchange Service} {name : String}
    (h : deletedBy? e = some name) : e.takesDown := by
  obtain ⟨op | op, answer⟩ := e
  · cases op <;> first | rfl | cases h
  · cases h

/-- The name that is deleted is that of the stack that is taken down. -/
theorem name_of_deletedBy? {e : Exchange Service} {y : Stack} {name : String}
    {answer : Except Error Unit} (which : e = drained y answer ∨ e = deleted y answer)
    (h : deletedBy? e = some name) : name = y.name := by
  rcases which with rfl | rfl
  · cases h
  · cases answer <;> cases h
    rfl

/-- An attempt takes nothing down. -/
theorem Attempt.Goes.takes_nothing_down {p : Provisioner} {values : Values} {pool : NodePool}
    {steps passed : List Step} {g last : Progress} {cs : List (Exchange Service)}
    {failure : Option Error} (goes : Goes p values pool steps g passed cs last failure) :
    ∀ e ∈ cs, e.takesDown = false := by
  have one {step : Step} {g : Progress} {cs : List (Exchange Service)}
      {r : Except Error Progress} (takes : Takes p values pool step g cs r) :
      ∀ e ∈ cs, e.takesDown = false := by
    cases takes <;> simp [Exchange.takesDown, Exchange.site, Exchange.cloud]
  induction goes with
  | arrived g => exact fun e mem => nomatch mem
  | stopped takes => exact one takes
  | passed takes _ ih => exact List.forall_mem_append.mpr ⟨one takes, ih⟩

namespace RunFor

variable {c : Cluster} {whole : List (Exchange Service)}

/-- Whatever comes of it, a run applies stacks of its target pools only. -/
theorem of_apply (h : RunFor c whole) {name document : String} {tags : Tags}
    {answer : Except Error Unit} (mem : .cloud (.apply name document tags) answer ∈ whole) :
    ∃ pool ∈ c.targets, tags = Tags.encode c.id pool ∧ name = stackName c pool := by
  cases h with
  | provision same run =>
    subst same
    obtain ⟨attempts, account⟩ := run.accounted
    obtain ⟨attempt, inside, asked⟩ := account.exists_attempt (List.mem_filter.mpr ⟨mem, rfl⟩)
    obtain ⟨step, -, g, cs, r, takes, asked⟩ := attempt.goes.of_mem asked
    obtain ⟨-, named, -, tagged, -⟩ := takes.of_apply asked
    exact ⟨attempt.pool, account.pools ▸ List.mem_map_of_mem inside, tagged, named⟩
  | reconcile same run =>
    rcases runs_reconcile run with ⟨e, rfl, -⟩ | ⟨live, rest, rfl, taken⟩
    · cases List.mem_singleton.mp mem
    · have asked : .cloud (.apply name document tags) answer ∈ calls rest :=
        List.mem_filter.mpr ⟨(List.mem_cons.mp mem).resolve_left nofun, rfl⟩
      obtain ⟨x, -, answer', which | which⟩ := taken.of_mem asked
      · cases which
      · cases which

/-- What a run takes down it has found before among the stacks of its cluster. -/
theorem of_takesDown (h : RunFor c whole) {before after : List (Exchange Service)}
    {e : Exchange Service} (split : whole = before ++ e :: after) (down : e.takesDown) :
    ∃ listed, .cloud (.list (Tags.owner c.id)) (.ok listed) ∈ before ∧
      ∃ x ∈ listed, ∃ answer, e = drained x answer ∨ e = deleted x answer := by
  have mem : e ∈ whole := split ▸ List.mem_append_right _ List.mem_cons_self
  have call : e.isCall := by
    obtain ⟨op | op, answer⟩ := e
    · rfl
    · cases op <;> first | rfl | cases down
  cases h with
  | provision same run =>
    obtain ⟨attempts, account⟩ := run.accounted
    obtain ⟨attempt, -, asked⟩ := account.exists_attempt (List.mem_filter.mpr ⟨mem, call⟩)
    cases (attempt.goes.takes_nothing_down e asked).symm.trans down
  | reconcile same run =>
    subst same
    rcases runs_reconcile run with ⟨e', rfl, -⟩ | ⟨listed, rest, rfl, taken⟩
    · cases List.mem_singleton.mp mem
      cases down
    · rcases before with _ | ⟨first, before⟩
      · cases split
        cases down
      · obtain ⟨rfl, rfl⟩ := List.cons.inj split
        have asked : e ∈ calls (before ++ e :: after) :=
          List.mem_filter.mpr ⟨List.mem_append_right _ List.mem_cons_self, call⟩
        obtain ⟨x, orphan, which⟩ := taken.of_mem asked
        exact ⟨listed, List.mem_cons_self, x, (List.mem_filter.mp orphan).1, which⟩

end RunFor

/-- A stack has the name and the tags of a target pool of a run for the cluster of an id. -/
def AppliedFor (runs : List Cluster) (id : String) (x : Stack) : Prop :=
  ∃ c ∈ runs, c.id = id ∧ ∃ pool ∈ c.targets,
    x.name = stackName c pool ∧ x.tags = Tags.encode id pool

theorem AppliedFor.holdAll_owner_iff {runs : List Cluster} {id id' : String} {x : Stack}
    (h : AppliedFor runs id x) : Tags.holdAll x.tags (Tags.owner id') = true ↔ id = id' := by
  obtain ⟨c, -, -, pool, -, -, tags⟩ := h
  rw [tags]
  exact Tags.holdAll_owner_encode_iff

/-- A stack that was applied for a cluster is named as the cluster names the pool that the tags
of the stack tell. -/
theorem AppliedFor.name_eq {runs : List Cluster} {id : String} {x : Stack} {c : Cluster}
    (h : AppliedFor runs id x) (same : c.id = id) :
    x.name = stackName c (Tags.decode x.tags) := by
  obtain ⟨d, -, rfl, pool, -, name, tags⟩ := h
  rw [name, tags, Tags.decode_encode]
  exact (stackName_eq_iff same.symm).mpr rfl

/-- An exchange drains or deletes a stack of a cluster: the stack has been listed among those of
the cluster and was applied for it, and the pool that is drained is the one by which the
cluster names the stack. -/
structure TakesOwn (c : Cluster) (runs : List Cluster) (asked : List (Exchange Service))
    (e : Exchange Service) (y : Stack) : Prop where
  which : ∃ answer, e = drained y answer ∨ e = deleted y answer
  found : ∃ listed, .cloud (.list (Tags.owner c.id)) (.ok listed) ∈ asked ∧ y ∈ listed
  applied : AppliedFor runs c.id y
  named : y.name = stackName c (Tags.decode y.tags)

namespace Shared

variable {σ : Type} {answer : Handler Service σ} {live : σ → List Stack} {runs : List Cluster}
  {s s' : σ} {tr before after : List (Nat × Exchange Service)}

/-- Before any run has begun, nothing has been asked. -/
theorem start (answer : Handler Service σ) (s : σ) : Shared answer [] s [] s := by
  refine ⟨.nil s, fun e mem => ?_, fun i c at_i => ?_⟩
  · cases mem
  · cases at_i

/-- A run that is begun when others have asked what they ask. -/
theorem next {c : Cluster} {mid : σ} {made whole : List (Exchange Service)}
    (shared : Shared answer runs s tr mid) (run : RunFor c whole) (begins : made <+: whole)
    (plays : answer.Plays mid made s') :
    Shared answer (runs ++ [c]) s (tr ++ made.map fun e => (runs.length, e)) s' := by
  have tagged : (made.map fun e => (runs.length, e)).map Prod.snd = made := by
    rw [List.map_map]
    exact List.map_id' made
  refine ⟨?_, fun e mem => ?_, fun i d at_i => ?_⟩
  · rw [List.map_append, tagged]
    exact Handler.plays_append.mpr ⟨mid, shared.plays, plays⟩
  · rw [List.length_append, List.length_singleton]
    rcases List.mem_append.mp mem with old | new
    · exact Nat.lt_succ_of_lt (shared.inside e old)
    · obtain ⟨e, -, rfl⟩ := List.mem_map.mp new
      exact Nat.lt_succ_self _
  · rw [own_append]
    by_cases last : i = runs.length
    · subst last
      have nothing : own runs.length tr = [] := List.filterMap_eq_nil_iff.mpr fun e mem =>
        if_neg (Nat.ne_of_lt (shared.inside e mem))
      rw [List.getElem?_concat_length, Option.some.injEq] at at_i
      subst at_i
      rw [nothing, own_map_self]
      exact ⟨whole, run, begins⟩
    · have before : i < runs.length := by
        have inside := (List.getElem?_eq_some_iff.mp at_i).1
        rw [List.length_append, List.length_singleton] at inside
        omega
      rw [List.getElem?_append_left before] at at_i
      rw [own_map_other (Ne.symm last), List.append_nil]
      exact shared.begun i d at_i

/-- What has been asked up to a moment is asked by runs that have been begun. -/
theorem upTo (shared : Shared answer runs s (before ++ after) s') :
    ∃ mid, Shared answer runs s before mid ∧ answer.Plays mid (after.map Prod.snd) s' := by
  have plays := shared.plays
  rw [List.map_append] at plays
  obtain ⟨mid, first, second⟩ := Handler.plays_append.mp plays
  refine ⟨mid, ⟨first, fun e mem => shared.inside e (List.mem_append_left _ mem),
    fun i c at_i => ?_⟩, second⟩
  obtain ⟨whole, run, begins⟩ := shared.begun i c at_i
  rw [own_append] at begins
  exact ⟨whole, run, (List.prefix_append _ _).trans begins⟩

/-- Whatever is asked is asked by a run that goes on after what it has asked before. -/
theorem of_split {i : Nat} {e : Exchange Service} {c : Cluster}
    (shared : Shared answer runs s (before ++ (i, e) :: after) s') (at_i : runs[i]? = some c) :
    ∃ rest, RunFor c (own i before ++ e :: rest) := by
  obtain ⟨whole, run, more, rfl⟩ := shared.begun i c at_i
  rw [own_append, own_cons_self, List.append_assoc, List.cons_append] at run
  exact ⟨_, run⟩

/-- What a run applies in a shared world is the stack of a target pool of its own. -/
theorem of_applied {i : Nat} {e : Exchange Service} {c : Cluster} {a : Applied}
    (shared : Shared answer runs s (before ++ (i, e) :: after) s') (at_i : runs[i]? = some c)
    (by_e : appliedBy? e = some a) :
    ∃ pool ∈ c.targets, a.tags = Tags.encode c.id pool ∧ a.name = stackName c pool := by
  obtain ⟨rest, run⟩ := shared.of_split at_i
  obtain rfl := eq_of_appliedBy? by_e
  exact run.of_apply (List.mem_append_right _ List.mem_cons_self)

/-- A stack that carries the tags of a cluster has been applied for it, if none was live at
the start. -/
theorem appliedFor (shared : Shared answer runs s tr s') (only : OnlyApplied answer live)
    {id : String} (fresh : ∀ x ∈ live s, Tags.holdAll x.tags (Tags.owner id) = false) {x : Stack}
    (mem : x ∈ live s') (owned : Tags.holdAll x.tags (Tags.owner id) = true) :
    AppliedFor runs id x := by
  rcases only.origin shared.plays mem with old | ⟨document, told, asked⟩
  · cases (fresh x old).symm.trans owned
  obtain ⟨⟨i, e⟩, there, rfl⟩ := List.mem_map.mp asked
  obtain ⟨whole, run, begins⟩ := shared.begun i _ (List.getElem?_eq_getElem (shared.inside _ there))
  obtain ⟨pool, target, encoded, named⟩ := run.of_apply (begins.subset (mem_own.mpr there))
  rw [encoded, Tags.holdAll_owner_encode_iff] at owned
  exact ⟨_, List.getElem_mem _, owned, pool, target, named, owned ▸ encoded⟩

/-- What a run takes down it has listed among the stacks of its cluster.  It was live then with
the tags of the cluster, and so has been applied for it, by the name that its tags tell. -/
theorem takes_down_own {i : Nat} {e : Exchange Service} {c : Cluster}
    (shared : Shared answer runs s (before ++ (i, e) :: after) s') (keeps : Keeps answer live)
    (fresh : ∀ x ∈ live s, Tags.holdAll x.tags (Tags.owner c.id) = false)
    (at_i : runs[i]? = some c) (down : e.takesDown) :
    ∃ y, TakesOwn c runs (own i before) e y := by
  obtain ⟨rest, run⟩ := shared.of_split at_i
  obtain ⟨listed, mem, y, found, which⟩ := run.of_takesDown rfl down
  obtain ⟨earlier, later, rfl⟩ := List.append_of_mem (mem_own.mp mem)
  have applied : AppliedFor runs c.id y := by
    rw [List.append_assoc] at shared
    obtain ⟨mid, begun, plays⟩ := shared.upTo
    have moves := keeps (.inl (.list (Tags.owner c.id))) mid
    rw [← (Handler.plays_cons.mp plays).1] at moves
    have there := found
    rw [moves.1] at there
    obtain ⟨there, owned⟩ := List.mem_filter.mp there
    exact begun.appliedFor keeps.onlyApplied fresh there owned
  exact ⟨y, which, ⟨listed, mem, found⟩, applied, applied.name_eq rfl⟩

end Shared

/-- What an exchange does about the stacks that carry the tags of an id; the exchange is one of a
run for a cluster, behind what this run has asked before.  Each of the stacks is live afterwards
as it was.  And what is taken down is one of the cluster's own, which does not carry the tags of
the id and has a name that none of the stacks has. -/
structure Spares (id : String) (c : Cluster) (runs : List Cluster)
    (asked : List (Exchange Service)) (live : List Stack) (e : Exchange Service)
    (after : List Stack) : Prop where
  stays : ∀ x ∈ live, Tags.holdAll x.tags (Tags.owner id) = true → x ∈ after
  others : e.takesDown → ∃ y, TakesOwn c runs asked e y ∧
    Tags.holdAll y.tags (Tags.owner id) = false ∧
    ∀ x ∈ live, Tags.holdAll x.tags (Tags.owner id) = true → x.name ≠ y.name

/-- Whether the stacks of two clusters have different names depends on how these end, and on
nothing else if the pools may be any; that the ids differ is not enough.  In every history
of runs that begins when no stack of the two is live, and in which no target pool of a run
for the one has the stack name of a target pool of a run for the other, the runs for the
second leave every stack that carries the tags of the first as it is, and drain and delete
only what they have listed as their own and what was applied for the second. -/
theorem runs_leave_neighbours (a b : String) :
    ((∀ c d : Cluster, c.id = a → d.id = b → ∀ p ∈ c.pools, ∀ q ∈ d.pools,
      stackName c p ≠ stackName d q) ↔ ¬ending a <:+ ending b ∧ ¬ending b <:+ ending a) ∧
    ∀ {σ : Type} {answer : Handler Service σ} {live : σ → List Stack} {runs : List Cluster}
      {s s' : σ} {before after : List (Nat × Exchange Service)} {i : Nat} {e : Exchange Service}
      {d : Cluster}, Keeps answer live →
      (∀ x ∈ live s, Tags.holdAll x.tags (Tags.owner a) = false ∧
        Tags.holdAll x.tags (Tags.owner b) = false) →
      (∀ c ∈ runs, ∀ d ∈ runs, c.id = a → d.id = b → ∀ p ∈ c.targets, ∀ q ∈ d.targets,
        stackName c p ≠ stackName d q) →
      Shared answer runs s (before ++ (i, e) :: after) s' → runs[i]? = some d → d.id = b →
      ∃ mid next, answer.Plays s (before.map Prod.snd) mid ∧ answer.Plays mid [e] next ∧
        Spares a d runs (own i before) (live mid) e (live next) := by
  refine ⟨stackName_ne_iff, ?_⟩
  intro σ answer live runs s s' before after i e d keeps fresh apart shared at_i named
  subst named
  obtain ⟨mid, begun, plays⟩ := shared.upTo
  have here : answer.Plays mid ([e] ++ after.map Prod.snd) s' := plays
  obtain ⟨next, now, -⟩ := Handler.plays_append.mp here
  have mine {x : Stack} (mem : x ∈ live mid) (owned : Tags.holdAll x.tags (Tags.owner a) = true) :
      AppliedFor runs a x :=
    begun.appliedFor keeps.onlyApplied (fun x mem => (fresh x mem).1) mem owned
  have there : d ∈ runs := List.mem_of_getElem? at_i
  have theirs {y : Stack} {x : Stack} (of_x : AppliedFor runs a x)
      (of_y : AppliedFor runs d.id y) : x.name ≠ y.name := by
    obtain ⟨c, mem, id, p, target, name, -⟩ := of_x
    obtain ⟨d', mem', id', q, target', name', -⟩ := of_y
    rw [name, name']
    exact apart c mem d' mem' id id' p target q target'
  have own_only (down : e.takesDown) := shared.takes_down_own keeps (fun x mem => (fresh x mem).2)
    at_i down
  have step : Moves (live mid) e (live next) := by
    cases keeps.moved now with
    | cons step rest =>
      cases rest
      exact step
  refine ⟨mid, next, begun.plays, now, fun x mem owned => ?_, fun down => ?_⟩
  · refine step.stays mem (fun ap by_e => ?_) fun name gone => ?_
    · obtain ⟨q, target, tags, name⟩ := shared.of_applied at_i by_e
      have of_run : AppliedFor runs d.id ⟨ap.name, ap.tags, ""⟩ :=
        ⟨d, there, rfl, q, target, name, tags⟩
      exact theirs (mine mem owned) of_run
    · obtain ⟨y, takes⟩ := own_only (takesDown_of_deletedBy? gone)
      obtain ⟨answer', which⟩ := takes.which
      rw [name_of_deletedBy? which gone]
      exact theirs (mine mem owned) takes.applied
  · obtain ⟨y, takes⟩ := own_only down
    refine ⟨y, takes, ?_, fun x mem owned => theirs (mine mem owned) takes.applied⟩
    rw [Bool.eq_false_iff]
    intro held
    have both : AppliedFor runs a y := takes.applied.holdAll_owner_iff.mp held ▸ takes.applied
    exact theirs both takes.applied rfl

/-- A stack that is not live any more after a pass of reconciling was deleted by it. -/
theorem mem_deletions_of_reconcile {σ : Type} {answer : Handler Service σ} {live : σ → List Stack}
    (keeps : Keeps answer live) {p : Provisioner} {s s' : σ} {tr : List (Exchange Service)}
    {r : Except Error Unit} (run : Runs p.reconcile.outcome tr r) (plays : answer.Plays s tr s')
    {x : Stack} (mem : x ∈ live s) (gone : x ∉ live s') : x.name ∈ deletions tr := by
  by_contra kept
  refine gone ?_
  rw [(keeps.moved plays).deletes (applied_of_reconcile run)]
  exact List.mem_filter.mpr ⟨mem, decide_eq_true kept⟩

/-- A cluster with one pool of workers. -/
def oneWorker (id pool : String) : Provisioner where
  cluster := ⟨id, "eu-central-1", [⟨pool, "worker", "m5.large", .none, 0, 9⟩],
    List.nodup_singleton _⟩
  profiles := twoWorkers.profiles
  waitTimeout := .whole 600
  waitInterval := .whole 10

/-- What is live after a cluster has been provisioned in a world in which all goes well. -/
def liveAfter (p : Provisioner) (live : List Stack) : List Stack :=
  ((p.provision []).outcome.run tending live).2

/-- Whether a stack with the tags of an id is live. -/
def isOwned (id : String) (live : List Stack) : Bool :=
  live.any fun x => Tags.holdAll x.tags (Tags.owner id)

set_option maxRecDepth 100000 in
/-- Two clusters of different ids may have one name for their stacks, and then the one takes
over the stack of the other. -/
theorem one_name_for_two_clusters :
    (oneWorker "eu-kube" "plain").cluster.id ≠ (oneWorker "kube" "plain-eu").cluster.id ∧
    stackName (oneWorker "eu-kube" "plain").cluster
        ⟨"plain", "worker", "m5.large", .none, 0, 9⟩ =
      stackName (oneWorker "kube" "plain-eu").cluster
        ⟨"plain-eu", "worker", "m5.large", .none, 0, 9⟩ ∧
    isOwned "eu-kube" (liveAfter (oneWorker "eu-kube" "plain") []) = true ∧
    isOwned "eu-kube" (liveAfter (oneWorker "kube" "plain-eu")
      (liveAfter (oneWorker "eu-kube" "plain") [])) = false := by
  decide +kernel

set_option maxRecDepth 100000 in
/-- The stack of a pool that is no longer desired is deleted, and that of another cluster stays. -/
theorem kube_left_alone : ∃ runs asked mid e next,
    deletedBy? e = some "nodepool-old-lab" ∧ tending.Plays mid [e] next ∧
      Spares "kube" (oneWorker "lab" "plain").cluster runs asked mid e next ∧
      isOwned "kube" ((oneWorker "lab" "plain").reconcile.outcome.run tending
        (liveAfter (oneWorker "lab" "old") (liveAfter (oneWorker "kube" "plain") []))).2 = true := by
  let kube := oneWorker "kube" "plain"
  let old := oneWorker "lab" "old"
  let lab := oneWorker "lab" "plain"
  have first := run_of_wentWell (kube.provision []).outcome tending [] (by decide +kernel)
  have second := run_of_wentWell (old.provision []).outcome tending (liveAfter kube [])
    (by decide +kernel)
  have third := run_of_wentWell lab.reconcile.outcome tending (liveAfter old (liveAfter kube []))
    (by decide +kernel)
  obtain ⟨tr₁, made₁⟩ := provisions_of_run first
  obtain ⟨tr₂, made₂⟩ := provisions_of_run second
  obtain ⟨tr, runs, plays⟩ := Prog.run_eq_some_iff.mp third
  have gone : ∃ x ∈ liveAfter old (liveAfter kube []), x.name = "nodepool-old-lab" ∧
      x ∉ (lab.reconcile.outcome.run tending (liveAfter old (liveAfter kube []))).2 := by
    decide +kernel
  obtain ⟨x, mem, name, absent⟩ := gone
  obtain ⟨e, asked, by_e⟩ :=
    List.mem_filterMap.mp (mem_deletions_of_reconcile keeps_tending runs plays mem absent)
  rw [name] at by_e
  obtain ⟨before, after, split⟩ := List.append_of_mem asked
  have one := (Shared.start tending []).next (.provision rfl made₁) List.prefix_rfl made₁.plays
  have two := one.next (.provision rfl made₂) List.prefix_rfl made₂.plays
  have shared := two.next (.reconcile rfl runs) List.prefix_rfl plays
  rw [split, List.map_append, List.map_cons, ← List.append_assoc] at shared
  have apart : ¬ending "kube" <:+ ending "lab" ∧ ¬ending "lab" <:+ ending "kube" := by decide
  obtain ⟨mid, next, -, now, spares⟩ := (runs_leave_neighbours "kube" "lab").2 keeps_tending
    (fun x (mem : x ∈ []) => (nomatch mem)) (fun c _ d _ id id' p target q target' =>
      stackName_ne_iff.mpr apart c d id id' p (List.mem_filter.mp target).1 q
        (List.mem_filter.mp target').1) shared rfl rfl
  exact ⟨_, _, mid, e, next, by_e, now, spares, by decide +kernel⟩

end NodePools
