import Mathlib.Data.Finset.Insert
import Mathlib.Data.Multiset.ZeroCons
import NodePools.Proofs.Decommission

/-!
# The order of the requests does not matter

The attempts of the pools of a cluster share one object store and one stack manager,
and their requests come in any order.  A `Ledger` is what these have been made to
hold: buckets, objects, stacks as they were applied, and waits.  If what is answered
depends on the request alone, the order leaves no trace: neither in the result of
provisioning nor in the ledger.

Two facts carry this.  The names of two pools' stacks never coincide, so that no pool
applies what another one applied before.  And objects have keys made from their
content, so that two pools that store under one key store the same bytes, as
long as the digest does not give one value for two contents.
-/

namespace NodePools

open Attempt Provisioner
open Prog (Runs)
open Rehearsal (Waited)

/-! ## What is remembered of a request -/

/-- The bucket that an exchange made sure of. -/
def madeBy? : Exchange Service → Option String
  | ⟨.inl (.ensureBucket bucket), .ok ()⟩ => some bucket
  | _ => none

/-- The wait that an exchange asked for, whatever came of it. -/
def waitedBy? : Exchange Service → Option Waited
  | ⟨.inl (.wait name timeout interval), _⟩ => some ⟨name, timeout, interval⟩
  | _ => none

/-- What an object store and a stack manager have been made to hold: buckets, objects by
bucket and key, stacks by name as they were last applied, and how often each was
waited for. -/
@[ext]
structure Ledger where
  buckets : Finset String
  objects : String × String → Option Bytes
  applied : String → Option Applied
  waits : Multiset Waited

/-- The ledger after one more exchange. -/
def Ledger.after (l : Ledger) (e : Exchange Service) : Ledger where
  buckets := (madeBy? e).elim l.buckets fun bucket => insert bucket l.buckets
  objects := (storedBy? e).elim l.objects fun x =>
    Function.update l.objects (x.bucket, x.key) (some x.content)
  applied := (appliedBy? e).elim l.applied fun a => Function.update l.applied a.name (some a)
  waits := (waitedBy? e).elim l.waits fun w => w ::ₘ l.waits

/-- A world that answers as a script tells and keeps a ledger. -/
def scripted (told : (op : Service.Op) → Service.Answer op) : Handler Service Ledger :=
  fun op l => (told op, l.after ⟨op, told op⟩)

theorem plays_scripted {told : (op : Service.Op) → Service.Answer op} {l l' : Ledger}
    {tr : List (Exchange Service)} (plays : (scripted told).Plays l tr l') :
    (∀ e ∈ tr, e.answer = told e.op) ∧ l' = tr.foldl Ledger.after l := by
  induction plays with
  | nil l => exact ⟨fun e mem => (List.not_mem_nil mem).elim, rfl⟩
  | cons _ ih => exact ⟨List.forall_mem_cons.mpr ⟨rfl, ih.1⟩, ih.2⟩

/-- Two exchanges leave the same ledger in both orders, if neither stores nor applies
something else in the place of what the other one did. -/
theorem Ledger.after_comm {e e' : Exchange Service}
    (objects : ∀ x y, storedBy? e = some x → storedBy? e' = some y →
      (x.bucket, x.key) = (y.bucket, y.key) → x = y)
    (applies : ∀ a b, appliedBy? e = some a → appliedBy? e' = some b → a.name = b.name → a = b)
    (l : Ledger) : (l.after e).after e' = (l.after e').after e := by
  refine Ledger.ext ?_ ?_ ?_ ?_
  · simp only [Ledger.after]
    cases madeBy? e <;> cases madeBy? e' <;> try rfl
    exact Finset.insert_comm ..
  · simp only [Ledger.after]
    rcases of_e : storedBy? e with _ | x <;> rcases of_e' : storedBy? e' with _ | y <;> try rfl
    by_cases place : (x.bucket, x.key) = (y.bucket, y.key)
    · rw [objects x y of_e of_e' place]
    · exact Function.update_comm place ..
  · simp only [Ledger.after]
    rcases of_e : appliedBy? e with _ | a <;> rcases of_e' : appliedBy? e' with _ | b <;> try rfl
    by_cases name : a.name = b.name
    · rw [applies a b of_e of_e' name]
    · exact Function.update_comm name ..
  · simp only [Ledger.after]
    cases waitedBy? e <;> cases waitedBy? e' <;> try rfl
    exact Multiset.cons_swap ..

/-! ## What a run of provisioning stores and applies -/

section

variable {σ : Type} {p : Provisioner} {values : Values} {answer : Handler Service σ} {s s' : σ}
  {tr : List (Option Nat × Exchange Service)} {r : Except Error Unit}

/-- What a run stores is under the key made from it, and the converter gave it. -/
theorem Provisioner.Provisions.of_mem_stored (run : Provisions p values answer s tr r s')
    {x : Stored} (mem : x ∈ stored (tr.map Prod.snd)) :
    x = objectOf p x.content ∧ x.content ∈ converted (tr.map Prod.snd) := by
  obtain ⟨attempts, account⟩ := run.accounted
  rw [stored, ← filterMap_calls fun _ _ => rfl] at mem
  obtain ⟨e, asked, by_e⟩ := List.mem_filterMap.mp mem
  obtain ⟨attempt, inside, of_attempt⟩ := account.exists_attempt asked
  obtain ⟨object, given⟩ := Finished.of_mem_stored (List.mem_filterMap.mpr ⟨e, of_attempt, by_e⟩)
  refine ⟨object, ?_⟩
  obtain ⟨i, place, rfl⟩ := List.getElem_of_mem inside
  rw [← account.own_calls i _ (List.getElem?_eq_getElem place)] at given
  obtain ⟨e', mem', by_e'⟩ := List.mem_filterMap.mp given
  have there := mem_own.mp (List.mem_filter.mp mem').1
  exact List.mem_filterMap.mpr ⟨e', List.mem_map_of_mem there, by_e'⟩

/-- What a run applies under one name is one stack. -/
theorem Provisioner.Provisions.applied_inj (run : Provisions p values answer s tr r s')
    {a b : Applied} (mem : a ∈ applied (tr.map Prod.snd)) (mem' : b ∈ applied (tr.map Prod.snd))
    (name : a.name = b.name) : a = b := by
  obtain ⟨attempts, account⟩ := run.accounted
  obtain ⟨first, inside, came⟩ := List.mem_filterMap.mp (account.applied_perm.mem_iff.mp mem)
  obtain ⟨second, inside', came'⟩ := List.mem_filterMap.mp (account.applied_perm.mem_iff.mp mem')
  obtain rfl := Finished.of_applied? came
  obtain rfl := Finished.of_applied? came'
  have names := names_of_attempts account.pools
  obtain rfl := List.inj_on_of_nodup_map names inside inside' ((stackName_eq_iff rfl).mp name)
  rfl

/-! ## Any two runs agree -/

/-- If what is answered is told by a script, any two runs of provisioning have one result
and make the same requests. -/
theorem Provisioner.Provisions.agree {σ' : Type} {told : (op : Service.Op) → Service.Answer op}
    {answer' : Handler Service σ'} {t t' : σ'} {tr' : List (Option Nat × Exchange Service)}
    {r' : Except Error Unit} (run : Provisions p values answer s tr r s')
    (run' : Provisions p values answer' t tr' r' t')
    (heeds : ∀ e ∈ tr.map Prod.snd, e.answer = told e.op)
    (heeds' : ∀ e ∈ tr'.map Prod.snd, e.answer = told e.op) :
    r = r' ∧ (tr.map Prod.snd).Perm (tr'.map Prod.snd) := by
  cases run with
  | idle none logged _ =>
    cases run' with
    | idle _ logged' _ =>
      rw [map_snd_ofMain] at heeds heeds'
      rw [map_snd_ofMain, map_snd_ofMain]
      obtain ⟨rfl, same⟩ := logged.unique logged' heeds heeds'
      exact ⟨same, .refl _⟩
    | busy some => exact absurd none some
  | busy some opened _ order closed _ =>
    cases run' with
    | idle none => exact absurd none some
    | busy _ opened' _ order' closed' _ =>
      simp only [List.map_append, map_snd_ofMain, map_snd_ofAttempts, List.forall_mem_append]
        at heeds heeds' ⊢
      obtain ⟨⟨first, middle⟩, last⟩ := heeds
      obtain ⟨⟨first', middle'⟩, last'⟩ := heeds'
      obtain ⟨rfl, -⟩ := opened.unique opened' first first'
      obtain ⟨rfl, perm⟩ := order.agree order' middle middle'
      obtain ⟨rfl, same⟩ := closed.unique closed' last last'
      exact ⟨same, (perm.append_left _).append_right _⟩

end

/-- If what is answered is told by a script, provisioning has the result and leaves the
ledger that it has and leaves when the attempts are made one after the other, in
whatever order the requests of the attempts come in, as long as the digest does not
give one value for two of the contents stored. -/
theorem provision_order_irrelevant (p : Provisioner) (values : Values)
    (told : (op : Service.Op) → Service.Answer op) (l l' : Ledger)
    (tr : List (Option Nat × Exchange Service)) (r : Except Error Unit)
    (run : Provisions p values (scripted told) l tr r l')
    (distinct : ∀ x ∈ stored (tr.map Prod.snd), ∀ y ∈ stored (tr.map Prod.snd),
      Digest.sha512Hex x.content = Digest.sha512Hex y.content → x.content = y.content) :
    (p.provision values).outcome.run (scripted told) l = (some r, l') := by
  obtain ⟨r₀, l₀, ran⟩ := (uncut_provision p values).run (scripted told) l
  obtain ⟨tr₀, sequential⟩ := provisions_of_run ran
  obtain ⟨heeds, rfl⟩ := plays_scripted run.plays
  obtain ⟨heeds₀, rfl⟩ := plays_scripted sequential.plays
  obtain ⟨rfl, perm⟩ := run.agree sequential heeds heeds₀
  rw [ran]
  congr 1
  refine (perm.foldl_eq' (fun e mem e' mem' m => ?_) l).symm
  refine Ledger.after_comm (fun x y by_e by_e' place => ?_) (fun a b by_e by_e' name => ?_) m
  · have first : x ∈ stored (tr.map Prod.snd) := List.mem_filterMap.mpr ⟨e, mem, by_e⟩
    have second : y ∈ stored (tr.map Prod.snd) := List.mem_filterMap.mpr ⟨e', mem', by_e'⟩
    have object := (run.of_mem_stored first).1
    have object' := (run.of_mem_stored second).1
    have key : contentKey x.content = contentKey y.content := by
      rw [object, object'] at place
      exact (Prod.mk.inj place).2
    have content := distinct x first y second ((String.append_left_inj _).mp key)
    rw [object, object', content]
  · exact run.applied_inj (List.mem_filterMap.mpr ⟨e, mem, by_e⟩)
      (List.mem_filterMap.mpr ⟨e', mem', by_e'⟩) name

/-- Where all user data is converted to one payload, nothing else is got from the converter. -/
theorem converted_refusing {stack : String} {tr : List (Exchange Service)}
    (heeds : ∀ e ∈ tr, e.answer = refusing stack e.op) {payload : Bytes}
    (mem : payload ∈ converted tr) : payload = [1, 2, 3] := by
  obtain ⟨⟨op, answer⟩, there, by_e⟩ := List.mem_filterMap.mp mem
  obtain rfl : answer = refusing stack op := heeds _ there
  rcases op with op | op
  · cases by_e
  · cases op <;> cases by_e
    rfl

/-- The second of two pools may be given its stack before the first. -/
theorem twoWorkers_order_irrelevant : ∃ tr r l',
    Provisions twoWorkers [] (scripted (refusing "nodepool-bidding-kube")) ⟨∅, fun _ => none,
      fun _ => none, 0⟩ tr r l' ∧
    (twoWorkers.provision []).outcome.run (scripted (refusing "nodepool-bidding-kube"))
      ⟨∅, fun _ => none, fun _ => none, 0⟩ = (some r, l') := by
  let answer := scripted (refusing "nodepool-bidding-kube")
  obtain ⟨told, l₁, logged⟩ := (Service.uncut_log .info (some twoWorkers.cluster.id)
    s!"Provisioning {twoWorkers.cluster.targets.length} node pools").run answer
    ⟨∅, fun _ => none, fun _ => none, 0⟩
  obtain ⟨plain, l₂, first⟩ := (uncut_provisionPool twoWorkers []
    ⟨"plain", "worker", "m5.large", .none, 0, 9⟩).run answer l₁
  obtain ⟨bidding, l₃, second⟩ := (uncut_provisionPool twoWorkers []
    ⟨"bidding", "worker", "m5.large", .none, 0, 9⟩).run answer l₂
  obtain ⟨r, l', ended⟩ := (uncut_conclude twoWorkers
    (twoWorkers.cluster.targets.zip [bidding, plain])).run answer l₃
  obtain ⟨opening, opened, plays⟩ := Prog.run_eq_some_iff.mp logged
  obtain ⟨closing, closed, plays'⟩ := Prog.run_eq_some_iff.mp ended
  obtain rfl := (Service.runs_log opened).2
  have finished : Interleaved answer [.done bidding, .done plain] l₃ [] [bidding, plain] l₃ :=
    .finished [bidding, plain] l₃
  have last : ∃ tr, Interleaved answer [_, .done plain] l₂ tr [bidding, plain] l₃ :=
    Interleaved.run_task (i := 0) rfl second finished
  obtain ⟨tr₁, last⟩ := last
  have both : ∃ tr, Interleaved answer (twoWorkers.attempts []) l₁ tr [bidding, plain] l₃ :=
    Interleaved.run_task (i := 1) rfl first last
  obtain ⟨tr₂, order⟩ := both
  have run := Provisions.busy (by decide) opened plays order closed plays'
  have one : ∀ x ∈ stored ((ofMain opening ++ ofAttempts tr₂ ++ ofMain closing).map Prod.snd),
      x.content = [1, 2, 3] := fun x mem =>
    converted_refusing (plays_scripted run.plays).1 (run.of_mem_stored mem).2
  refine ⟨_, r, l', run, provision_order_irrelevant _ _ _ _ _ _ _ run fun x mem y mem' _ => ?_⟩
  rw [one x mem, one y mem']

end NodePools
