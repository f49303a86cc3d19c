import NodePools.Tags
import NodePools.Text.Search

/-!
# Stacks of node pools

Each pool that is provisioned has one stack of infrastructure, named after the
pool and the cluster.  A live stack is an orphan when its tags name a pool that
is not desired.
-/

namespace NodePools

/-- A stack as a service reports it. -/
structure Stack where
  name : String
  tags : Tags
  status : String
deriving Repr, DecidableEq

/-- The name of a pool's stack.  A colon is not allowed in stack names, so a
hyphen takes its place in the cluster's id. -/
def stackName (c : Cluster) (p : NodePool) : String :=
  "nodepool-" ++ p.name ++ "-" ++ String.ofList (c.id.toList.map fun x => if x = ':' then '-' else x)

/-- The stacks whose pool is not among the given ones. -/
def orphans (live : List Stack) (pools : List NodePool) : List Stack :=
  live.filter fun s => !(pools.map NodePool.name).contains (Tags.decode s.tags).name

end NodePools
