import NodePools.Stack

/-!
# What tags say

The five keys of a pool's tags are distinct, whatever the cluster is called, so that
the tags are a plain list of entries (`encode_eq`) from which the pool is read
back (`decode_encode`).  A stack's name says which pool of a cluster it is for
(`stackName_eq_iff`).
-/

namespace NodePools.Tags

/-- What the key of a cluster cannot be: a key that does not begin as such keys do. -/
theorem clusterKey_ne {key : String} (other : ¬"kubernetes.io/cluster/".toList <+: key.toList)
    (id : String) : clusterKey id ≠ key := by
  intro same
  have begins : key.toList = "kubernetes.io/cluster/".toList ++ id.toList := by
    rw [← same]
    exact String.toList_append
  exact other ⟨_, begins.symm⟩

theorem clusterKey_ne_roleKey (id : String) : clusterKey id ≠ roleKey :=
  clusterKey_ne (by decide) id

theorem clusterKey_ne_nameKey (id : String) : clusterKey id ≠ nameKey :=
  clusterKey_ne (by decide) id

theorem clusterKey_ne_legacyNameKey (id : String) : clusterKey id ≠ legacyNameKey :=
  clusterKey_ne (by decide) id

theorem clusterKey_ne_profileKey (id : String) : clusterKey id ≠ profileKey :=
  clusterKey_ne (by decide) id

/-- The keys of a pool's tags are distinct. -/
theorem keys_nodup (id : String) :
    [clusterKey id, roleKey, nameKey, legacyNameKey, profileKey].Nodup := by
  have others : [roleKey, nameKey, legacyNameKey, profileKey].Nodup := by decide
  refine List.nodup_cons.mpr ⟨?_, others⟩
  simp only [List.mem_cons, List.not_mem_nil, or_false, not_or]
  exact ⟨clusterKey_ne_roleKey id, clusterKey_ne_nameKey id, clusterKey_ne_legacyNameKey id,
    clusterKey_ne_profileKey id⟩

theorem owner_eq (id : String) : owner id = [(clusterKey id, "owned"), (roleKey, "true")] := by
  have distinct : [clusterKey id, roleKey].Nodup :=
    (keys_nodup id).sublist (List.prefix_append [_, _] _).sublist
  exact Fields.ofPairs_of_distinct distinct

/-- A pool's tags, entry by entry. -/
theorem encode_eq (id : String) (p : NodePool) :
    encode id p = [(clusterKey id, "owned"), (roleKey, "true"), (nameKey, p.name),
      (legacyNameKey, p.name), (profileKey, p.profile)] := by
  rw [encode, owner_eq]
  exact Fields.setAll_of_distinct (keys_nodup id)

theorem encode_distinct (id : String) (p : NodePool) : (encode id p).Distinct := by
  rw [encode_eq]
  exact keys_nodup id

theorem get?_encode {id key value : String} {p : NodePool}
    (mem : (key, value) ∈ [(clusterKey id, "owned"), (roleKey, "true"), (nameKey, p.name),
      (legacyNameKey, p.name), (profileKey, p.profile)]) :
    (encode id p).get? key = some value := by
  rw [← encode_eq] at mem
  exact Fields.get?_eq_some_of_mem (encode_distinct id p) mem

/-- Tags tell the name and the profile of their pool. -/
theorem decode_encode (id : String) (p : NodePool) :
    decode (encode id p) = NodePool.identified p.name p.profile := by
  have name : (encode id p).get? nameKey = some p.name := get?_encode (by simp)
  have profile : (encode id p).get? profileKey = some p.profile := get?_encode (by simp)
  rw [decode, name, profile, Option.getD_some, Option.getD_some]

theorem holdAll_owner {tags : Tags} {id : String} :
    holdAll tags (owner id) = true ↔
      tags.get? (clusterKey id) = some "owned" ∧ tags.get? roleKey = some "true" := by
  rw [owner_eq, holdAll]
  simp only [List.all_cons, List.all_nil, Bool.and_true, Bool.and_eq_true, beq_iff_eq]

/-- A pool's tags are those of its cluster. -/
theorem holdAll_owner_encode (id : String) (p : NodePool) :
    holdAll (encode id p) (owner id) = true :=
  holdAll_owner.mpr ⟨get?_encode (by simp), get?_encode (by simp)⟩

end NodePools.Tags

namespace NodePools

/-- Two pools of a cluster have one stack name only if they have one name. -/
theorem stackName_eq_iff {c d : Cluster} (same : c.id = d.id) {p q : NodePool} :
    stackName c p = stackName d q ↔ p.name = q.name := by
  rw [stackName, stackName, same, String.append_left_inj, String.append_left_inj,
    String.append_right_inj]

end NodePools
