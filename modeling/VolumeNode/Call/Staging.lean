import VolumeNode.Volume.Access
import VolumeNode.Call.Checks

/-!
# Staging a volume

A staged volume has its device mounted on the staging directory.

* `stage` mounts a device that is not mounted anywhere: a volume for reading only as it is, any
  other after a filesystem was made if it has none. A device that is mounted already must be so on
  the staging directory, for the same kind of use.
* `unstage` unmounts a device that has this one mount. Nothing is to be done for a device without
  mounts.
-/

namespace VolumeNode

/-- Asks for a volume to be staged. -/
structure StageRequest where
  volume : String
  staging : String
  capability : Option Capability
deriving DecidableEq, Repr

/-- Asks for a volume to be taken off its staging directory. -/
structure UnstageRequest where
  volume : String
  staging : String
deriving DecidableEq, Repr

namespace Handler

/-- Mounts a device on a staging directory. -/
def mountDevice (device : Device) (volume staging : String) (plan : MountPlan) :
    Handler Unit := do
  if plan.readOnly then
    demand (← ask (.mount device.link staging plan.fsType (plan.flags ++ ["ro"])))
      (.mountFailed volume staging)
  else
    demand (← ask (.mountFormatted device.link staging plan.fsType plan.flags))
      (.formatFailed volume staging)

/-- Stages a volume. -/
def stage (naming : DeviceNaming) (r : StageRequest) : Handler Unit := do
  let device ← findDevice naming r.volume
  requireDirectory r.staging
  let plan ← ofExcept (MountPlan.ofRequest r.capability)
  match ← entriesOf device with
  | [] => mountDevice device r.volume r.staging plan
  | mounts =>
    match mounts.find? (·.path == r.staging) with
    | none => throw (.mountedElsewhere device.node r.volume)
    | some entry =>
      require (entry.carries plan.accessOption)
        (.mountedOtherwise r.volume r.staging entry.options)

/-- Takes a volume off its staging directory. -/
def unstage (naming : DeviceNaming) (r : UnstageRequest) : Handler Unit := do
  let device ← findDevice naming r.volume
  requireDirectory r.staging
  match ← entriesOf device with
  | [] => pure ()
  | [entry] =>
    require (entry.source == device.node && entry.path == r.staging)
      (.notMountedAt r.volume r.staging entry.path)
    demand (← ask (.unmount r.staging)) (.unmountFailed r.staging)
  | mounts => throw (.mountedTwice r.volume (mounts.map (·.path)))

end Handler

end VolumeNode
