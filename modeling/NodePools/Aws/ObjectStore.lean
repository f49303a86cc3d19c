import NodePools.Aws.Client

/-!
# Buckets and objects

An object store over the clients.  A bucket that is not there is made in the
store's region; that it was made by someone else in the meantime is no failure.
-/

namespace NodePools.Aws.ObjectStore

variable {τ : Type}

/-- The service of the store. -/
def service : String := "s3"

/-- How the addresses of objects begin. -/
def scheme : String := "s3"

/-- The region in which buckets are made without naming it. -/
def defaultRegion : String := "us-east-1"

/-- The codes by which a bucket is not there. -/
def missingCodes : List String := ["404", "NoSuchBucket", "NotFound"]

/-- The codes by which a bucket is already one's own. -/
def ownedCodes : List String := ["BucketAlreadyOwnedByYou"]

/-- The arguments with which a bucket is made. -/
def creation (region : Datum) (bucket : String) : Fields Datum :=
  let name := [("Bucket", Datum.text bucket)]
  if region.same (.text defaultRegion) then name
  else
    name ++ [("CreateBucketConfiguration", .table [("LocationConstraint", region)])]

/-- Makes a bucket that is not there. -/
def create (region : Datum) (bucket : String) : Action (Client τ) Unit := do
  match ← Client.attempt service "create_bucket" (creation region bucket) with
  | .ok _ => Client.log .info s!"Created bucket {bucket} in {region.plain}"
  | .error (.client e) =>
    if ← e.codeIsIn ownedCodes then return ()
    else throw (.publish (.bucketNotCreated bucket e.text))
  | .error e => throw e

/-- Makes a bucket unless it is there. -/
def ensureBucket (region : Datum) (bucket : String) : Action (Client τ) Unit := do
  Client.reuse service region
  match ← Client.attempt service "head_bucket" [("Bucket", .text bucket)] with
  | .ok _ => return ()
  | .error (.client e) =>
    if ← e.codeIsIn missingCodes then create region bucket
    else throw (.publish (.inaccessibleBucket bucket e.text))
  | .error e => throw e

/-- Stores bytes under a key. -/
def put (region : Datum) (bucket key : String) (content : Bytes) : Action (Client τ) Unit := do
  Client.reuse service region
  match ← Client.attempt service "put_object"
      [("Bucket", .text bucket), ("Key", .text key), ("Body", .bytes content)] with
  | .ok _ => return ()
  | .error (.client e) => throw (.publish (.notUploaded bucket key e.text))
  | .error e => throw e

end NodePools.Aws.ObjectStore
