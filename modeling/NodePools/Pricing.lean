import NodePools.Pool

/-!
# Prices

The hourly price of a machine on demand, by type and region.  A price is handed on
as the table has it.  A pool that bids for spare capacity
bids up to the price on demand; one without discount bids nothing.
-/

namespace NodePools

/-- What is known of an instance type. -/
structure InstanceInfo where
  instanceType : String
  vcpu : Number
  memoryGb : Number
  pricing : Fields Datum

/-- Instance types by name, the last of a name counting. -/
structure PriceTable where
  instances : Fields InstanceInfo

namespace PriceTable

/-- The table of a list of instance types. -/
def ofList (infos : List InstanceInfo) : PriceTable :=
  ⟨Fields.ofPairs (infos.map fun i => (i.instanceType, i))⟩

/-- What is known of an instance type, if it is listed. -/
def find? (t : PriceTable) (instanceType : String) : Option InstanceInfo :=
  t.instances.get? instanceType

/-- The regions of the listed prices, in the order in which the catalogue gives
them. -/
def regions : List String := ["us-east-1", "us-west-2", "eu-west-1", "eu-central-1"]

/-- A line of the catalogue. -/
def line (name : String) (vcpu memoryGb : Int) (prices : List String) : InstanceInfo :=
  ⟨name, .whole vcpu, .whole memoryGb, regions.zip (prices.map .text)⟩

/-- General purpose, compute and memory optimized families. -/
def catalogue : PriceTable := ofList [
  line "t3.medium" 2 4 ["0.0416", "0.0416", "0.0456", "0.048"],
  line "t3.large" 2 8 ["0.0832", "0.0832", "0.0912", "0.096"],
  line "t3.xlarge" 4 16 ["0.1664", "0.1664", "0.1824", "0.192"],
  line "m5.large" 2 8 ["0.096", "0.096", "0.107", "0.115"],
  line "m5.xlarge" 4 16 ["0.192", "0.192", "0.214", "0.23"],
  line "m5.2xlarge" 8 32 ["0.384", "0.384", "0.428", "0.46"],
  line "m5.4xlarge" 16 64 ["0.768", "0.768", "0.856", "0.92"],
  line "c5.large" 2 4 ["0.085", "0.085", "0.096", "0.097"],
  line "c5.xlarge" 4 8 ["0.17", "0.17", "0.192", "0.194"],
  line "c5.2xlarge" 8 16 ["0.34", "0.34", "0.384", "0.388"],
  line "c5.4xlarge" 16 32 ["0.68", "0.68", "0.768", "0.776"],
  line "r5.large" 2 16 ["0.126", "0.126", "0.141", "0.152"],
  line "r5.xlarge" 4 32 ["0.252", "0.252", "0.282", "0.304"],
  line "r5.2xlarge" 8 64 ["0.504", "0.504", "0.564", "0.608"]]

end PriceTable

/-- The price on demand in a region, given what is known of the instance type.  Nothing
in place of a price is none. -/
def onDemandPrice (info : Option InstanceInfo) (instanceType region : String) :
    Except ConfigError Datum :=
  match info with
  | none => .error (.unknownInstanceType instanceType)
  | some info =>
    match info.pricing.get? region with
    | none | some .null => .error (.noPrice region instanceType)
    | some price => .ok price

end NodePools
