import NodePools.Pool

/-!
# Clusters

A cluster is the desired state: its pools, whose names are distinct.
-/

namespace NodePools

/-- The first text that has stood before, `seen` holding those in front. -/
def firstRepeat? (seen : List String) : List String → Option String
  | [] => none
  | s :: rest => if s ∈ seen then some s else firstRepeat? (s :: seen) rest

theorem firstRepeat?_eq_none_iff {seen names : List String} :
    firstRepeat? seen names = none ↔ names.Nodup ∧ ∀ s ∈ names, s ∉ seen := by
  induction names generalizing seen with
  | nil => simp [firstRepeat?]
  | cons s rest ih =>
    simp only [firstRepeat?]
    split <;> grind

/-- The desired state of a cluster's node pools. -/
structure Cluster where
  id : String
  region : String
  pools : List NodePool
  distinct : (pools.map NodePool.name).Nodup

namespace Cluster

/-- A cluster, unless two pools share a name. -/
def make (id region : String) (pools : List NodePool) : Except ConfigError Cluster :=
  match h : firstRepeat? [] (pools.map NodePool.name) with
  | some name => .error (.duplicatePool name)
  | none => .ok ⟨id, region, pools, (firstRepeat?_eq_none_iff.1 h).1⟩

/-- The pools that are provisioned as stacks of their own. -/
def targets (c : Cluster) : List NodePool := c.pools.filter fun p => !p.isLegacy

/-- The names of all pools. -/
def poolNames (c : Cluster) : List String := c.pools.map NodePool.name

/-- The value of a field that must be given. -/
def required (data : Fields Datum) (key : String) : Except Error Datum :=
  let d := (data.get? key).getD .null
  if d.truthy then .ok d else .error (.config (.missingClusterField key))

/-- Reads the table of a cluster. -/
def ofTable (data : Fields Datum) : Except Error Cluster := do
  let id ← required data "id"
  let region ← required data "region"
  let entries ← ((data.get? "node_pools").getD (.list [])).items
  let pools ← entries.mapM NodePool.ofDatum
  let id ← id.written
  let region ← region.written
  (make id region pools).mapError .config

/-- Reads a cluster. -/
def ofDatum (d : Datum) : Except Error Cluster := do ofTable (← d.entries "get")

end Cluster
end NodePools
