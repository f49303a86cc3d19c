import NodePools.Datum
import NodePools.Error
import NodePools.Path

/-!
# Settings

Where profiles are, where user data goes, in which region, and how long to wait
for stacks.  The bucket and the folder of the profiles must be given, and no
setting may be unknown.
-/

namespace NodePools

/-- The settings of a provisioner. -/
structure Settings where
  bucket : String
  folder : Path
  /-- As given, nothing if it is not. -/
  region : Datum
  /-- Seconds to wait for a stack. -/
  waitTimeout : Float
  /-- Seconds between two looks at a stack. -/
  waitInterval : Float

namespace Settings

/-- The settings that must be given. -/
def required : List String := ["bucket", "config_dir"]

/-- All settings there are. -/
def known : List String := ["bucket", "config_dir", "region", "wait_timeout", "wait_interval"]

/-- The value of a key, nothing if it is not there. -/
def value (data : Fields Datum) (key : String) : Datum := (data.get? key).getD .null

/-- The first setting that must be given and is not. -/
def missing? (data : Fields Datum) : Option String :=
  required.find? fun key => !(value data key).truthy

/-- The settings that are unknown, sorted. -/
def unknown (data : Fields Datum) : List String :=
  (data.keys.filter fun key => !known.contains key).mergeSort fun a b => a ≤ b

/-- The path that a datum stands for. -/
def pathOf (homes : Path.Homes) : Datum → Except Fault Path
  | .text s => (Path.ofString s).expandHome homes
  | d => .error ⟨.type, s!"a path was expected, not {d.typeName}"⟩

/-- A time in seconds, with a value for one that is not given. -/
def seconds (data : Fields Datum) (key : String) (default : Float) : Except Fault Float :=
  match data.get? key with
  | some d => d.toFloat
  | none => .ok default

/-- Reads a table of settings. -/
def ofTable (homes : Path.Homes) (data : Fields Datum) : Except Error Settings := do
  if let some key := missing? data then throw (.config (.missingSetting key))
  let names := unknown data
  if !names.isEmpty then throw (.config (.unknownSettings names))
  let bucket ← (value data "bucket").written
  let folder ← pathOf homes (value data "config_dir")
  let waitTimeout ← seconds data "wait_timeout" 900
  let waitInterval ← seconds data "wait_interval" 15
  return {
    bucket
    folder
    region := value data "region"
    waitTimeout
    waitInterval }

/-- Reads settings. -/
def ofDatum (homes : Path.Homes) (d : Datum) : Except Error Settings := do
  ofTable homes (← d.entries "get")

end Settings
end NodePools
