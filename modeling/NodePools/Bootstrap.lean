import NodePools.Json.Printer
import NodePools.Text.Base64
import NodePools.Text.Utf8

/-!
# What a machine boots from

A machine is given only a small document that tells it to replace its
configuration by the one at an address, because what a machine may be given is
limited in size.  The document is handed over in base 64.
-/

namespace NodePools.Bootstrap

/-- The version of the configuration format, unless another one is asked for. -/
def defaultVersion : String := "3.4.0"

/-- The document that stands for the configuration at an address. -/
def skeletonDocument (uri version : String) : Json :=
  .table [("ignition", .table [
    ("version", .text version),
    ("config", .table [("replace", .table [("source", .text uri)])])])]

/-- The document as text. -/
def skeleton (uri version : String) : String := (skeletonDocument uri version).pretty

/-- The document as it is handed to a machine. -/
def encodeUserData (uri version : String) : String :=
  Text.Base64.encode (Text.Utf8.encode (skeleton uri version))

end NodePools.Bootstrap
