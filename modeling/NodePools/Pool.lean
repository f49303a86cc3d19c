import NodePools.Datum
import NodePools.Error

/-!
# Node pools

A node pool is a named group of worker machines of one configuration.  Only its
name identifies it.  Pools of the profiles that belong to the cluster itself
are never provisioned on their own.
-/

namespace NodePools

/-- How the capacity of a pool is paid for. -/
inductive DiscountStrategy where
  | none
  | spotMaxPrice
  /-- A strategy of which only the name is given, which may be one that no rule
  knows. -/
  | named (name : String)
deriving Repr, DecidableEq

namespace DiscountStrategy

/-- The name of a strategy in documents. -/
def name : DiscountStrategy → String
  | .none => "none"
  | .spotMaxPrice => "spot_max_price"
  | .named name => name

/-- The strategy of a name. -/
def ofName (name : String) : DiscountStrategy :=
  if name = "none" then .none
  else if name = "spot_max_price" then .spotMaxPrice
  else .named name

/-- Reads the strategy of a document.  Nothing and the empty text stand for no
discount, and an unknown name is refused. -/
def ofDatum (d : Option Datum) : Except Error DiscountStrategy :=
  match d with
  | Option.none | some .null | some (.text "") => .ok .none
  | some (.text s) =>
    match ofName s with
    | .named _ => .error (.config (.unsupportedStrategy (Text.quoted s)))
    | known => .ok known
  | some d =>
    if d.canWrite then .error (.config (.unsupportedStrategy d.shown))
    else .error (.fault .tooManyDigits)

end DiscountStrategy

/-- A group of worker machines. -/
structure NodePool where
  name : String
  profile : String
  instanceType : String
  discountStrategy : DiscountStrategy
  minSize : Int
  maxSize : Int
deriving Repr, DecidableEq

namespace NodePool

/-- A pool of which only the name and the profile are known. -/
def identified (name profile : String) : NodePool := ⟨name, profile, "", .none, 0, 1⟩

/-- The profiles of the machines that the cluster's own stack manages. -/
def legacyProfiles : List String := ["master-default", "worker-default"]

/-- Whether a pool belongs to the cluster's own stack. -/
def isLegacy (p : NodePool) : Bool := legacyProfiles.contains p.profile

/-- A field as text, with a value for a field that is not there. -/
def textField (data : Fields Datum) (key default : String) : Except Fault String :=
  match data.get? key with
  | some d => d.written
  | none => .ok default

/-- A field as a whole number, with a value for a field that is not there. -/
def sizeField (data : Fields Datum) (key : String) (default : Int) : Except Fault Int :=
  match data.get? key with
  | some d => d.toInt
  | none => .ok default

/-- Reads the table of a pool. -/
def ofTable (data : Fields Datum) : Except Error NodePool := do
  let name := (data.get? "name").getD .null
  if !name.truthy then throw (.config .unnamedPool)
  let name ← name.written
  let profile ← textField data "profile" ""
  let instanceType ← textField data "instance_type" ""
  let discountStrategy ← DiscountStrategy.ofDatum (data.get? "discount_strategy")
  let minSize ← sizeField data "min_size" 0
  let maxSize ← sizeField data "max_size" 1
  return { name, profile, instanceType, discountStrategy, minSize, maxSize }

/-- Reads a pool. -/
def ofDatum (d : Datum) : Except Error NodePool := do ofTable (← d.entries "get")

end NodePool
end NodePools
