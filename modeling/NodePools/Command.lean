import NodePools.Aws.Backend

/-!
# Commands

Two commands on a project folder: one provisions the node pools that its
configuration names, the other one decommissions those that it no longer names.
-/

namespace NodePools.Command

open NodePools.Aws

/-- Where a command runs: the files, whose home directories are known, the project
folder, the configuration for all projects, and the converter. -/
structure Setting where
  files : FileTree
  homes : Path.Homes
  project : Path
  general : Path
  converter : Converter
  /-- How often to look at most at a stack, a list or a scaling group. -/
  looks : Nat

/-- How a command ends that is not stopped by an error: well, or with lines that
say what failed. -/
inductive Ending where
  | finished
  | failed (lines : List String)
deriving Repr, DecidableEq

/-- What a command asks: the clients and the converter program. -/
abbrev Asks (τ : Type) : Signature := (Client τ).sum Converting

/-- The line about a pool that failed. -/
def failureLine (failure : String × Error) : String := s!"  ✗ {failure.1}: {failure.2.message}"

variable {τ : Type}

/-- An action on the clients alone. -/
def onClients {α : Type} (action : Action (Client τ) α) : Action (Asks τ) α :=
  .ofAnswer (.inFirst action.outcome)

/-- The folder in which the command for decommissioning looks for profiles. -/
def profilesFolder : String := "profiles"

/-- Provisions the pools of the project. -/
def provision [Seconds τ] (s : Setting) : Action (Asks τ) Ending := do
  let config ← Config.load s.files s.general s.project
  let settings ← config.settings s.homes
  let settings := { settings with folder := s.project.join settings.folder }
  let cluster ← config.cluster
  let backend : Backend := ⟨regionOf settings cluster, s.looks⟩
  onClients backend.connect
  let p := provisionerOf settings cluster s.files s.converter.version
  let values ← config.values
  let attendants : Attendants := ⟨.catalogue, s.converter, none⟩
  match ← ExceptT.lift (attendants.overPrograms backend (p.provision (.ofTexts values)).outcome) with
  | .ok () => return .finished
  | .error (.provisioning failures) => return .failed (failures.map failureLine)
  | .error e => throw e

/-- Decommissions the pools that the project no longer names. -/
def reconcile [Seconds τ] (s : Setting) : Action (Asks τ) Ending := do
  let config ← Config.load s.files s.general s.project
  let settings ← config.settings s.homes
  let settings := { settings with folder := s.project.child profilesFolder }
  let cluster ← config.cluster
  onClients (Client.connect Scaler.service (.text cluster.region))
  let backend : Backend := ⟨regionOf settings cluster, s.looks⟩
  onClients backend.connect
  let p := provisionerOf settings cluster s.files s.converter.version
  let attendants : Attendants := ⟨.catalogue, s.converter, some (Scaler.standard cluster)⟩
  Action.ofAnswer (attendants.overPrograms backend p.reconcile.outcome)
  return .finished

end NodePools.Command
