import VolumeNode.Volume.Access
import VolumeNode.Call.Checks

/-!
# Publishing a volume

A published volume has its staging directory mounted on a target directory as well.

* `publish` makes the target directory if it is missing, and binds the staging directory to it. The
  device must have a mount; if it has several and one of them is at the target, that one decides.
* `unpublish` takes all mounts of the device off the target and then removes the directory. Nothing
  is to be done if there are none.
-/

namespace VolumeNode

/-- Asks for a volume to be published. -/
structure PublishRequest where
  volume : String
  staging : String
  target : String
  capability : Option Capability
  readOnly : Bool
deriving DecidableEq, Repr

/-- Asks for a volume to be taken off a target. -/
structure UnpublishRequest where
  volume : String
  target : String
deriving DecidableEq, Repr

namespace Handler

/-- The flags of a publication. -/
def publishFlags (flags : List String) (readOnly : Bool) : List String :=
  if readOnly then flags ++ ["ro"] else flags

/-- The mount of a device that shows it published at a target. A single mount of the device is the
    one it is staged with. -/
def published? (mounts : List MountEntry) (target : String) : Option MountEntry :=
  if mounts.length > 1 then mounts.find? (·.path == target) else none

/-- Publishes a volume. -/
def publish (naming : DeviceNaming) (r : PublishRequest) : Handler Unit := do
  let device ← findDevice naming r.volume
  requireTarget r.target
  makeTarget r.target
  requireDirectory r.staging
  let plan ← ofExcept (MountPlan.ofRequest r.capability)
  let mounts ← entriesOf device
  match published? mounts r.target with
  | some entry =>
    require (entry.carries (accessOption r.readOnly)) (.publishedOtherwise r.volume r.target)
  | none =>
    require (! mounts.isEmpty) (.notStaged r.volume r.staging)
    demand (← ask (.bindTo r.staging r.target (publishFlags plan.flags r.readOnly)))
      (.bindFailed r.volume r.target)

/-- Unmounts a target so many times. -/
def unmountTimes (target : String) : Nat → Handler Unit
  | 0 => pure ()
  | n + 1 => do
    demand (← ask (.unmount target)) (.unmountFailed target)
    unmountTimes target n

/-- Whether an entry at a target is a mount of a device. -/
def shows (entry : MountEntry) (device : Device) : Bool :=
  entry.source == device.node || entry.device == device.node

/-- Takes a volume off a target. -/
def unpublish (naming : DeviceNaming) (r : UnpublishRequest) : Handler Unit := do
  let device ← findDevice naming r.volume
  requireTarget r.target
  let matching := (← entriesAt r.target).countP (shows · device)
  if matching = 0 then pure ()
  else
    unmountTimes r.target matching
    demand (← ask (.removeDirectory r.target)) (.directoryNotRemoved r.target)

end Handler

end VolumeNode
