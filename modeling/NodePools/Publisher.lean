import NodePools.Digest.Sha512
import NodePools.Service

/-!
# Publishing by content

Bytes are stored under a key that is made from their digest, so that the same
bytes always have the same address and storing them twice changes nothing.
-/

namespace NodePools

/-- The key of bytes: their digest in hexadecimal with a fixed ending. -/
def contentKey (content : Bytes) : String := Digest.sha512Hex content ++ ".userdata"

namespace Publisher

/-- The address of an object. -/
def uri (scheme bucket key : String) : String := s!"{scheme}://{bucket}/{key}"

/-- What becomes of an error of the store: one about publishing stays as it is,
any other one is told as such. -/
def storeError (key bucket : String) : Error → Error
  | .publish cause => .publish cause
  | e => .publish (.storeFailed key bucket e.message)

/-- Stores bytes under their key in a bucket, which is made first unless it is
there, and gives their address. -/
def publish (scheme bucket : String) (content : Bytes) : Action Service String := do
  let key := contentKey content
  Action.mapError (storeError key bucket) do
    Service.ensureBucket bucket
    Service.put bucket key content
  let address := uri scheme bucket key
  Service.log .debug none s!"Published {content.length} bytes to {address}"
  return address

end Publisher
end NodePools
