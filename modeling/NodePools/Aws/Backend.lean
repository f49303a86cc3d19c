import NodePools.Aws.ObjectStore
import NodePools.Aws.Scaler
import NodePools.Aws.Stacks
import NodePools.Config.Loading
import NodePools.Converter
import NodePools.Provisioner

/-!
# Provisioning in the cloud

What the requests of a provisioner become: those to cloud services are calls of
clients, and for those at its own site there are standard collaborators, namely
the catalogue of prices, the converter program, and the scaling groups.
-/

namespace NodePools.Aws

/-- Where stacks and buckets are, and how often to look at most at a stack, a
list or a scaling group. -/
structure Backend where
  region : Datum
  looks : Nat

/-- The region of a configuration: the one in the settings, or else that of the
cluster. -/
def regionOf (s : Settings) (c : Cluster) : Datum :=
  if s.region.truthy then s.region else .text c.region

/-- A provisioner for a cluster with settings.  The converter writes the given
version of the configuration format. -/
def provisionerOf (s : Settings) (c : Cluster) (files : FileTree) (version : String) :
    Provisioner where
  cluster := c
  profiles := ⟨files, s.folder, s.bucket, ObjectStore.scheme, version⟩
  waitTimeout := .real s.waitTimeout
  waitInterval := .real s.waitInterval

variable {τ : Type}

namespace Backend

/-- Makes the clients of the object store and of the stacks. -/
def connect (b : Backend) : Action (Client τ) Unit := do
  Client.connect ObjectStore.service b.region
  Client.connect Stacks.service b.region

/-- A listed stack with its parts as texts.  A tag is known by a text. -/
def stackOf (l : Stacks.Listed) : Stack :=
  ⟨l.name.plain, l.tags.texts.mapValues Datum.plain, l.status.plain⟩

/-- The live stacks with the given tags. -/
def list (b : Backend) (tags : Tags) : Action (Client τ) (List Stack) := do
  let found ← Stacks.list b.looks b.region (tags.mapValues .text)
  return found.map stackOf

/-- The calls that a request to a cloud service becomes. -/
def meaning [Seconds τ] (b : Backend) : (op : CloudOp) → Prog (Client τ) op.Answer
  | .ensureBucket bucket => (ObjectStore.ensureBucket b.region bucket).outcome
  | .put bucket key content => (ObjectStore.put b.region bucket key content).outcome
  | .apply name template tags =>
    (Stacks.apply b.region name template (tags.mapValues .text)).outcome
  | .wait name timeout interval => (Stacks.wait b.looks b.region name timeout interval).outcome
  | .list tags => (b.list tags).outcome
  | .delete name => (Stacks.delete b.region name).outcome

/-- A program over the clients in which requests at the site stay what they are. -/
def overClients [Seconds τ] {α : Type} (b : Backend) (p : Prog Service α) :
    Prog ((Client τ).sum Site) α :=
  p.interpret (Prog.either (S := Cloud) (U := Site) (fun op => .inFirst (b.meaning op))
    fun op => .inSecond (.request op))

end Backend

/-- The standard collaborators at the site.  Without scaler a pool is never
resized. -/
structure Attendants where
  prices : PriceTable
  converter : Converter
  scaler : Option Scaler

namespace Attendants

/-- What a request at the site becomes. -/
def meaning [Seconds τ] (a : Attendants) (b : Backend) :
    (op : SiteOp) → Prog ((Client τ).sum Converting) op.Answer
  | .instanceInfo instanceType => .done (.ok (a.prices.find? instanceType))
  | .convert rendered => .inSecond (a.converter.convert rendered)
  | .scale pool replicas =>
    match a.scaler with
    | some s => .inFirst (s.scale b.looks pool replicas).outcome
    | none => .done (.ok ())
  | .log record => .inFirst (.request (S := Client τ) (.log record))

/-- A program over the clients and the converter program. -/
def overPrograms [Seconds τ] {α : Type} (a : Attendants) (b : Backend) (p : Prog Service α) :
    Prog ((Client τ).sum Converting) α :=
  p.interpret (Prog.either (S := Cloud) (U := Site) (fun op => .inFirst (b.meaning op))
    (a.meaning b))

end Attendants
end NodePools.Aws
