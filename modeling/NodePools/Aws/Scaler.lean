import NodePools.Aws.Client
import NodePools.Stack

/-!
# Scaling groups

A pool's machines are in the scaling group of its stack.  Scaling a pool resizes
the group and looks at it until no more machines are left than asked for; no
look starts when the time is up.
-/

namespace NodePools.Aws

/-- What scales the pools of a cluster: the seconds between two looks at a group,
and for how long to look. -/
structure Scaler where
  cluster : Cluster
  pollInterval : Number
  timeout : Number

namespace Scaler

/-- The service of the groups. -/
def service : String := "autoscaling"

/-- The service that knows the resources of a stack. -/
def resourceService : String := "cloudformation"

/-- Looks every fifteen seconds for fifteen minutes. -/
def standard (c : Cluster) : Scaler := ⟨c, .real 15, .real 900⟩

variable {τ : Type}

/-- The first of the things under a key of an answer. -/
def firstOf (answer : Datum) (key : String) : Except Fault Datum := do
  (← answer.field key).firstItem

/-- The scaling group of a pool's stack. -/
def group (s : Scaler) (pool : NodePool) : Action (Client τ) Datum := do
  Client.connect resourceService (.text s.cluster.region)
  let answer ← Client.call resourceService "describe_stack_resources"
    [("StackName", .text (stackName s.cluster pool)),
      ("LogicalResourceId", .text "AutoScalingGroup")]
  let first ← firstOf answer "StackResources"
  first.field "PhysicalResourceId"

/-- How many machines an answer shows in the first group. -/
def machines (answer : Datum) : Except Fault Nat := do
  let first ← firstOf answer "AutoScalingGroups"
  (← first.field "Instances").size

/-- The error when machines are left in the end. -/
def stillRunning (s : Scaler) (pool : NodePool) : Error :=
  match s.timeout.wholeText? with
  | some seconds => .scaling (.stillRunning pool.name seconds)
  | none => .fault .wholeTooLarge

/-- Looks at a group until at most so many machines are left or the deadline has
come. -/
def watch [Seconds τ] (s : Scaler) (pool : NodePool) (group : Datum) (replicas : Int)
    (deadline pause : τ) : Nat → Action (Client τ) Unit
  | 0 => ExceptT.mk .cut
  | fuel + 1 => do
    let now ← Client.now
    if now < deadline then
      let answer ← Client.call service "describe_auto_scaling_groups"
        [("AutoScalingGroupNames", .list [group])]
      let left ← machines answer
      if left ≤ replicas then return ()
      else
        Client.sleep pause
        watch s pool group replicas deadline pause fuel
    else throw (s.stillRunning pool)

/-- Resizes the group of a pool and waits until it has shrunk.  At most `looks`
looks are taken. -/
def scale [Seconds τ] (looks : Nat) (s : Scaler) (pool : NodePool) (replicas : Int) :
    Action (Client τ) Unit := do
  let group ← s.group pool
  let _ ← Client.call service "update_auto_scaling_group"
    [("AutoScalingGroupName", group), ("MinSize", .whole replicas),
      ("DesiredCapacity", .whole replicas)]
  if s.timeout.toFloat?.isNone then throw (.fault .wholeTooLarge)
  let limit ← (Seconds.ofNumber s.timeout : Except Fault τ)
  let pause ← (Seconds.ofNumber s.pollInterval : Except Fault τ)
  let start ← Client.now
  s.watch pool group replicas (start + limit) pause looks

end Scaler
end NodePools.Aws
