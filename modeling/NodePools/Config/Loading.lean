import NodePools.Cluster
import NodePools.Config.Merge
import NodePools.Config.Settings
import NodePools.FileTree
import NodePools.Profile
import NodePools.Toml.Document

/-!
# Configuration

A configuration is read from two files, either of which may be missing: that of
the project is laid over the one that holds for all projects.  It has three
sections: the settings, the cluster, and the values that templates see.
-/

namespace NodePools

/-- A configuration by section. -/
abbrev Config := Fields Datum

namespace Config

/-- The name of a project's configuration file. -/
def projectFile : String := "nodeform.toml"

/-- The section of the settings. -/
def settingsKey : String := "provisioner"

/-- The section of the cluster. -/
def clusterKey : String := "cluster"

/-- The section of the values. -/
def valuesKey : String := "values"

/-- Reads the document in a file's content. -/
def readDocument (path : Path) (content : Bytes) : Except Error Config :=
  match Text.Utf8.decode content with
  | .error u => .error (.fault ⟨.decoding, u.text⟩)
  | .ok text =>
    match Toml.parse text with
    | .ok fields => .ok fields
    | .error .malformed => .error (.config (.invalidToml path.text))
    | .error .oversized =>
      .error (.fault ⟨.value, "a whole number has too many digits"⟩)

/-- Reads the document at a path, an empty one if no file is there. -/
def readFile (files : FileTree) (path : Path) : Except Error Config := do
  match ← files.probe path with
  | some (.file content) => readDocument path content
  | _ => return []

/-- The configuration of two layers.  Every section is there in the end. -/
def ofLayers (lower upper : Config) : Config :=
  [settingsKey, clusterKey, valuesKey].foldl
    (fun config key => config.setDefault key (.table [])) (overlay lower upper)

/-- The configuration of a project folder over the one at another path. -/
def load (files : FileTree) (general project : Path) : Except Error Config := do
  let lower ← readFile files general
  let upper ← readFile files (project.child projectFile)
  return ofLayers lower upper

/-- A section. -/
def sectionOf (config : Config) (key : String) : Except Fault Datum :=
  Datum.field (.table config) key

/-- The settings in a configuration. -/
def settings (homes : Path.Homes) (config : Config) : Except Error Settings := do
  Settings.ofDatum homes (← config.sectionOf settingsKey)

/-- The cluster in a configuration. -/
def cluster (config : Config) : Except Error Cluster := do
  Cluster.ofDatum (← config.sectionOf clusterKey)

/-- The text that a scalar is for templates: truth values are in lower case. -/
def scalarText (key : String) : Datum → Except Error String
  | .list _ | .table _ => .error (.config (.valueNotScalar key))
  | .bool b => .ok (if b then "true" else "false")
  | d => d.written.mapError .fault

/-- The values for templates in a table of scalars. -/
def valuesOf (d : Datum) : Except Error (Fields String) := do
  (← d.entries "items").mapM fun (key, value) => do
    return (key, ← scalarText key value)

/-- The values in a configuration. -/
def values (config : Config) : Except Error (Fields String) := do
  valuesOf (← config.sectionOf valuesKey)

end Config
end NodePools
