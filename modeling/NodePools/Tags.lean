import NodePools.Cluster

/-!
# Stack tags

Every stack of a node pool carries five tags: who owns it, that it is the stack
of a node pool, the pool's name under two keys, and its profile.  The tags are
how a live stack is recognised and read back.  A cloud service lists tags as
entries of a key and a value, either of which may be missing.
-/

namespace NodePools

/-- Tags by key. -/
abbrev Tags := Fields String

/-- One tag as a service lists it. -/
structure TagEntry (α : Type) where
  key : Option String
  value : Option α
deriving Repr, DecidableEq

namespace Tags

/-- The key under which pool stacks are told from others. -/
def roleKey : String := "kubernetes.io/role/node-pool"

/-- The key of the pool's name. -/
def nameKey : String := "kubernetes.io/node-pool"

/-- The key under which older tools look for the pool's name. -/
def legacyNameKey : String := "NodePool"

/-- The key of the pool's profile. -/
def profileKey : String := "kubernetes.io/node-pool/profile"

/-- The key that ties a stack to a cluster. -/
def clusterKey (clusterId : String) : String := "kubernetes.io/cluster/" ++ clusterId

/-- The tags that every pool stack of a cluster carries. -/
def owner (clusterId : String) : Tags :=
  Fields.ofPairs [(clusterKey clusterId, "owned"), (roleKey, "true")]

/-- The tags of a pool's stack. -/
def encode (clusterId : String) (p : NodePool) : Tags :=
  (owner clusterId).setAll [(nameKey, p.name), (legacyNameKey, p.name), (profileKey, p.profile)]

/-- The pool that tags identify.  A missing tag leaves its part empty. -/
def decode (tags : Tags) : NodePool :=
  NodePool.identified ((tags.get? nameKey).getD "") ((tags.get? profileKey).getD "")

/-- Tags as a service takes them. -/
def toEntries {α : Type} (tags : Fields α) : List (TagEntry α) :=
  tags.map fun (k, v) => ⟨some k, some v⟩

/-- Tags from a service's list.  An entry without key is passed over, one without
value has the blank one, and of several with one key the last counts. -/
def ofEntries {α : Type} (blank : α) (entries : List (TagEntry α)) : Fields α :=
  Fields.ofPairs (entries.filterMap fun e => e.key.map fun k => (k, e.value.getD blank))

/-- Whether tags hold all the tags asked for. -/
def holdAll (tags wanted : Tags) : Bool := wanted.all fun (k, v) => tags.get? k == some v

end Tags
end NodePools
