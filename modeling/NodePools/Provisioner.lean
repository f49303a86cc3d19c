import NodePools.Profile
import NodePools.Settle

/-!
# Provisioning and reconciling

Provisioning gives every target pool of a cluster its stack; the pools do not
disturb each other, and those that fail are named in the end.  Reconciling goes
through the live stacks of pools that are no longer desired, one at a time: it
drains the pool and deletes its stack, and stops at the first failure.
-/

namespace NodePools

/-- A cluster, the profiles of its pools, and how long in seconds to wait for a
stack and between two looks at it. -/
structure Provisioner where
  cluster : Cluster
  profiles : Profiles
  waitTimeout : Number
  waitInterval : Number

/-- The price that a pool bids: none without discount, the price on demand with
the bid for spare capacity. -/
def spotPrice (pool : NodePool) (region : String) : Action Service Datum :=
  match DiscountStrategy.ofName pool.discountStrategy.name with
  | .none => return .text ""
  | .spotMaxPrice => do
    let info ← Service.instanceInfo pool.instanceType
    Action.ofExcept ((onDemandPrice info pool.instanceType region).mapError .config)
  | .named name => throw (.config (.unpricedStrategy name))

namespace Provisioner

/-- The name under which templates see the price that a pool bids. -/
def spotPriceKey : String := "spot_price"

/-- Makes a log record that is bound to the cluster. -/
def log (p : Provisioner) (level : Level) (message : String) : Action Service Unit :=
  Service.log level (some p.cluster.id) message

/-- Gives one pool its stack and waits for it; the result is the stack's status. -/
def provisionPool (p : Provisioner) (values : Values) (pool : NodePool) :
    Action Service String := do
  let price ← spotPrice pool p.cluster.region
  let template ← p.profiles.renderStack p.cluster pool (values.set spotPriceKey price)
  let name := stackName p.cluster pool
  p.log .info s!"Applying stack {name}"
  Service.apply name template (Tags.encode p.cluster.id pool)
  let status ← Service.wait name p.waitTimeout p.waitInterval
  p.log .info s!"Stack {name} is {status}"
  return status

/-- The errors of the pools that failed, by the name of the pool. -/
def failuresByName (attempts : List (NodePool × Except Error String)) : Fields Error :=
  Fields.ofPairs ((Settle.failures attempts).map fun (pool, e) => (pool.name, e))

/-- Records what became of the pools, and fails if any of them did. -/
def conclude (p : Provisioner) (attempts : List (NodePool × Except Error String)) :
    Action Service Unit := do
  match failuresByName attempts with
  | [] => p.log .info s!"Provisioned {attempts.length} node pools"
  | failed =>
    failed.forM fun (name, e) => p.log .error s!"Node pool {name} failed: {e.message}"
    throw (.provisioning failed)

/-- Gives every target pool its stack. -/
def provision (p : Provisioner) (values : Values) : Action Service Unit := do
  let pools := p.cluster.targets
  if pools.isEmpty then p.log .info "No node pools to provision"
  else
    p.log .info s!"Provisioning {pools.length} node pools"
    let attempts ← ExceptT.lift
      (Settle.attemptAll (fun pool => (p.provisionPool values pool).outcome) pools)
    p.conclude attempts

/-- What becomes of an error of the scaler: one about scaling stays as it is, any
other one is told as such. -/
def drainError (pool : String) : Error → Error
  | .scaling cause => .scaling cause
  | e => .scaling (.notDrained pool e.message)

/-- Drains the pool of a stack and deletes the stack. -/
def decommission (p : Provisioner) (s : Stack) : Action Service Unit := do
  let pool := Tags.decode s.tags
  p.log .info s!"Draining node pool {pool.name}"
  Action.mapError (drainError pool.name) (Service.scale pool 0)
  p.log .info s!"Deleting stack {s.name}"
  Service.delete s.name

/-- Drains and deletes the stacks of pools that are no longer desired. -/
def reconcile (p : Provisioner) : Action Service Unit := do
  let live ← Service.list (Tags.owner p.cluster.id)
  let orphaned := orphans live p.cluster.pools
  if !orphaned.isEmpty then
    p.log .info s!"Found {orphaned.length} node pool stacks to decommission"
  orphaned.forM p.decommission

end Provisioner
end NodePools
