import Mathlib.Data.List.Induction
import NodePools.Proofs.TagCodec

/-!
# Tags as a service lists them

A service takes tags as a list of entries and hands the list back, in an order of its own and
with entries of others in between, some of which have no value or not even a key.  What is read
from a list under a key is the value of the last entry with this key (`get?_ofEntries`).  So
neither the order nor the entries of others matter to the tags of a pool: under every key that
the others do not use stands what was given out (`get?_ofEntries_of_perm`), and the pool is read
back from it (`entries_tell_pool`).
-/

namespace NodePools.Tags

variable {α : Type} {blank : α}

/-! ## Reading entries -/

/-- The last entry of a list is set last, if it has a key. -/
theorem ofEntries_concat (entries : List (TagEntry α)) (e : TagEntry α) :
    ofEntries blank (entries ++ [e]) =
      match e.key with
      | some key => Fields.set key (e.value.getD blank) (ofEntries blank entries)
      | none => ofEntries blank entries := by
  obtain ⟨key, value⟩ := e
  rw [ofEntries, List.filterMap_append, Fields.ofPairs, Fields.setAll, List.foldl_append]
  cases key <;> rfl

/-- What is read under a key is the value of the last entry that has it. -/
theorem get?_ofEntries (entries : List (TagEntry α)) (key : String) :
    (ofEntries blank entries).get? key =
      (entries.reverse.find? fun e => e.key = some key).map fun e => e.value.getD blank := by
  induction entries using List.reverseRecOn with
  | nil => rfl
  | append_singleton entries e ih =>
    rw [ofEntries_concat, List.reverse_append, List.reverse_singleton, List.singleton_append,
      List.find?_cons]
    obtain ⟨k | k, value⟩ := e
    · simp only [reduceCtorEq, decide_false, ih]
    · simp only [Option.some.injEq, Fields.get?_set]
      by_cases same : k = key
      · simp only [same, if_true, decide_true, Option.map_some]
      · simp only [same, Ne.symm same, if_false, decide_false, ih]

/-- Nothing is read under a key that no entry has. -/
theorem get?_ofEntries_eq_none {entries : List (TagEntry α)} {key : String}
    (other : ∀ e ∈ entries, e.key ≠ some key) : (ofEntries blank entries).get? key = none := by
  rw [get?_ofEntries, List.find?_eq_none.mpr, Option.map_none]
  intro e mem
  rw [decide_eq_true_eq]
  exact other e (List.mem_reverse.mp mem)

/-- What is read under a key is the value that all entries with this key have. -/
theorem get?_ofEntries_eq_some {entries : List (TagEntry α)} {key : String} {value : α}
    (there : ∃ e ∈ entries, e.key = some key)
    (one : ∀ e ∈ entries, e.key = some key → e.value.getD blank = value) :
    (ofEntries blank entries).get? key = some value := by
  rw [get?_ofEntries]
  cases found : entries.reverse.find? fun e => e.key = some key with
  | none =>
    obtain ⟨e, mem, same⟩ := there
    have none := List.find?_eq_none.mp found e (List.mem_reverse.mpr mem)
    exact absurd (decide_eq_true same) none
  | some e =>
    have same := List.find?_some found
    rw [decide_eq_true_eq] at same
    have mem := List.mem_reverse.mp (List.mem_of_find?_eq_some found)
    rw [Option.map_some, one e mem same]

/-! ## Entries that were given out -/

/-- Tags are read back from their own entries, in the same order. -/
theorem ofEntries_toEntries {tags : Fields α} (distinct : tags.Distinct) :
    ofEntries blank (toEntries tags) = tags := by
  have pairs : (toEntries tags).filterMap (fun e => e.key.map fun k => (k, e.value.getD blank)) =
      tags := by
    rw [toEntries, List.filterMap_map]
    exact List.filterMap_some
  rw [ofEntries, pairs, Fields.ofPairs_of_distinct distinct]

theorem mem_toEntries {tags : Fields α} {e : TagEntry α} :
    e ∈ toEntries tags ↔ ∃ key value, (key, value) ∈ tags ∧ e = ⟨some key, some value⟩ := by
  rw [toEntries, List.mem_map]
  constructor
  · rintro ⟨⟨key, value⟩, mem, rfl⟩
    exact ⟨key, value, mem, rfl⟩
  · rintro ⟨key, value, mem, rfl⟩
    exact ⟨(key, value), mem, rfl⟩

/-- In whichever order the entries of tags come back, and among whichever others: under a key
that none of the others has, there is what the tags have under it. -/
theorem get?_ofEntries_of_perm {tags : Fields α} (distinct : tags.Distinct)
    {entries others : List (TagEntry α)} (perm : entries.Perm (toEntries tags ++ others))
    {key : String} (foreign : ∀ e ∈ others, e.key ≠ some key) :
    (ofEntries blank entries).get? key = tags.get? key := by
  have own {e : TagEntry α} (mem : e ∈ entries) (same : e.key = some key) :
      ∃ value, (key, value) ∈ tags ∧ e = ⟨some key, some value⟩ := by
    rcases List.mem_append.mp (perm.mem_iff.mp mem) with mem | mem
    · obtain ⟨key', value, inside, rfl⟩ := mem_toEntries.mp mem
      cases same
      exact ⟨value, inside, rfl⟩
    · exact absurd same (foreign e mem)
  by_cases there : ∃ e ∈ entries, e.key = some key
  · obtain ⟨e, mem, same⟩ := there
    obtain ⟨value, inside, -⟩ := own mem same
    rw [Fields.get?_eq_some_of_mem distinct inside]
    refine get?_ofEntries_eq_some ⟨e, mem, same⟩ fun e' mem' same' => ?_
    obtain ⟨value', inside', rfl⟩ := own mem' same'
    have found := Fields.get?_eq_some_of_mem distinct inside
    rw [Fields.get?_eq_some_of_mem distinct inside'] at found
    exact Option.some.inj found
  · push Not at there
    rw [get?_ofEntries_eq_none there]
    cases found : tags.get? key with
    | none => rfl
    | some value =>
      have mem := mem_toEntries.mpr ⟨key, value, Fields.mem_of_get? found, rfl⟩
      exact absurd rfl (there _ (perm.mem_iff.mpr (List.mem_append_left _ mem)))

/-! ## The tags of a pool -/

theorem owner_prefix_encode (id : String) (p : NodePool) : owner id <+: encode id p := by
  rw [owner_eq, encode_eq]
  exact List.prefix_append [_, _] _

/-- The key that ties a stack to a cluster tells the cluster. -/
theorem get?_clusterKey_encode {id id' : String} {p : NodePool} :
    (encode id' p).get? (clusterKey id) = some "owned" ↔ id = id' := by
  constructor
  · intro found
    have mem := Fields.mem_of_get? found
    rw [encode_eq] at mem
    simp only [List.mem_cons, Prod.mk.injEq, List.not_mem_nil, or_false,
      clusterKey_ne_roleKey, clusterKey_ne_nameKey, clusterKey_ne_legacyNameKey,
      clusterKey_ne_profileKey, false_and, and_true] at mem
    exact (String.append_right_inj _).mp mem
  · rintro rfl
    exact get?_encode List.mem_cons_self

/-- The tags of a pool are read back from a list of entries, and its name and its profile as well,
when the entries come back in another order and among entries of others.  These may have any key
but those of the name and of the profile, no key at all, or no value. -/
theorem entries_tell_pool (id : String) (p : NodePool) :
    (∀ tags : Tags, tags.Distinct → ofEntries "" (toEntries tags) = tags) ∧
    (encode id p).keys = [clusterKey id, roleKey, nameKey, legacyNameKey, profileKey] ∧
    (encode id p).Distinct ∧
    (∀ key value, (owner id).get? key = some value → (encode id p).get? key = some value) ∧
    ∀ entries others : List (TagEntry String), entries.Perm (toEntries (encode id p) ++ others) →
      (∀ e ∈ others, e.key ≠ some nameKey ∧ e.key ≠ some profileKey) →
      decode (ofEntries "" entries) = NodePool.identified p.name p.profile := by
  have distinct := encode_distinct id p
  refine ⟨fun tags => ofEntries_toEntries, ?_, distinct, fun key value owned => ?_,
    fun entries others perm foreign => ?_⟩
  · rw [encode_eq]
    rfl
  · have mem := (owner_prefix_encode id p).subset (Fields.mem_of_get? owned)
    exact Fields.get?_eq_some_of_mem distinct mem
  · have name : (ofEntries "" entries).get? nameKey = (encode id p).get? nameKey :=
      get?_ofEntries_of_perm distinct perm fun e mem => (foreign e mem).1
    have profile : (ofEntries "" entries).get? profileKey = (encode id p).get? profileKey :=
      get?_ofEntries_of_perm distinct perm fun e mem => (foreign e mem).2
    rw [decode, name, profile, ← decode, decode_encode]

/-- The tags of a pool of the cluster "kube" as a service may list them, with a tag of the service,
one without value, one without key and one that repeats the older key of the name. -/
def listedTags : List (TagEntry String) :=
  [⟨some "aws:cloudformation:stack-name", some "nodepool-gpu-kube"⟩,
    ⟨some profileKey, some "worker"⟩, ⟨some "team", none⟩, ⟨some nameKey, some "gpu"⟩,
    ⟨none, some "lost"⟩, ⟨some legacyNameKey, some "gpu"⟩, ⟨some roleKey, some "true"⟩,
    ⟨some legacyNameKey, none⟩, ⟨some (clusterKey "kube"), some "owned"⟩]

/-- The pool is read back from them. -/
theorem listedTags_tell_gpu :
    listedTags.Perm (toEntries (encode "kube" ⟨"gpu", "worker", "m5.large", .none, 0, 9⟩) ++
      [⟨some "aws:cloudformation:stack-name", some "nodepool-gpu-kube"⟩, ⟨some "team", none⟩,
        ⟨none, some "lost"⟩, ⟨some legacyNameKey, none⟩]) ∧
    decode (ofEntries "" listedTags) = NodePool.identified "gpu" "worker" := by
  have perm : listedTags.Perm
      (toEntries (encode "kube" ⟨"gpu", "worker", "m5.large", .none, 0, 9⟩) ++
        [⟨some "aws:cloudformation:stack-name", some "nodepool-gpu-kube"⟩, ⟨some "team", none⟩,
          ⟨none, some "lost"⟩, ⟨some legacyNameKey, none⟩]) := by
    rw [encode_eq]
    decide
  exact ⟨perm, (entries_tell_pool "kube" ⟨"gpu", "worker", "m5.large", .none, 0, 9⟩).2.2.2.2
    listedTags _ perm (by decide)⟩

end NodePools.Tags
