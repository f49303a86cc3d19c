import NodePools.Log
import NodePools.Pricing
import NodePools.Prog
import NodePools.Stack

/-!
# What provisioning asks of the world

The collaborators of a provisioner as requests.  Some are cloud services: the
object store and the stacks.  The others are at the site of the provisioner:
prices, the converter of user data, the scaler, and the log.
-/

namespace NodePools

/-- A request to a cloud service. -/
inductive CloudOp where
  | ensureBucket (bucket : String)
  | put (bucket key : String) (content : Bytes)
  | apply (name template : String) (tags : Tags)
  | wait (name : String) (timeout interval : Number)
  | list (tags : Tags)
  | delete (name : String)

/-- What answers it.  Every one may fail. -/
def CloudOp.Answer : CloudOp → Type
  | .wait .. => Except Error String
  | .list _ => Except Error (List Stack)
  | .ensureBucket _ | .put .. | .apply .. | .delete _ => Except Error Unit

/-- The requests to cloud services. -/
def Cloud : Signature := ⟨CloudOp, CloudOp.Answer⟩

/-- A request at the site of the provisioner. -/
inductive SiteOp where
  | instanceInfo (instanceType : String)
  | convert (rendered : String)
  | scale (pool : NodePool) (replicas : Int)
  | log (record : Record)

/-- What answers it.  All but a log record may fail. -/
def SiteOp.Answer : SiteOp → Type
  | .instanceInfo _ => Except Error (Option InstanceInfo)
  | .convert _ => Except Error Bytes
  | .scale .. => Except Error Unit
  | .log _ => Unit

/-- The requests at the site of the provisioner. -/
def Site : Signature := ⟨SiteOp, SiteOp.Answer⟩

/-- All requests of a provisioner. -/
def Service : Signature := Cloud.sum Site

namespace Service

/-- Asks a cloud service. -/
def cloud (op : CloudOp) : Prog Service op.Answer := .request (S := Service) (.inl op)

/-- Asks at the site. -/
def site (op : SiteOp) : Prog Service op.Answer := .request (S := Service) (.inr op)

/-- Makes a bucket unless it is there. -/
def ensureBucket (bucket : String) : Action Service Unit := .ofAnswer (cloud (.ensureBucket bucket))

/-- Stores bytes under a key. -/
def put (bucket key : String) (content : Bytes) : Action Service Unit :=
  .ofAnswer (cloud (.put bucket key content))

/-- Creates or updates a stack. -/
def apply (name template : String) (tags : Tags) : Action Service Unit :=
  .ofAnswer (cloud (.apply name template tags))

/-- Waits until a stack has settled, and gives its status. -/
def wait (name : String) (timeout interval : Number) : Action Service String :=
  .ofAnswer (cloud (.wait name timeout interval))

/-- The live stacks with the given tags. -/
def list (tags : Tags) : Action Service (List Stack) := .ofAnswer (cloud (.list tags))

/-- Deletes a stack. -/
def delete (name : String) : Action Service Unit := .ofAnswer (cloud (.delete name))

/-- What is known of an instance type. -/
def instanceInfo (instanceType : String) : Action Service (Option InstanceInfo) :=
  .ofAnswer (site (.instanceInfo instanceType))

/-- Converts rendered user data. -/
def convert (rendered : String) : Action Service Bytes := .ofAnswer (site (.convert rendered))

/-- Resizes a pool. -/
def scale (pool : NodePool) (replicas : Int) : Action Service Unit :=
  .ofAnswer (site (.scale pool replicas))

/-- Makes a log record. -/
def log (level : Level) (cluster : Option String) (message : String) : Action Service Unit :=
  ExceptT.lift (site (.log ⟨level, cluster, message⟩))

end Service
end NodePools
