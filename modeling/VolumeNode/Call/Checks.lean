import VolumeNode.Call.PlainPath
import VolumeNode.Call.Procedure

/-!
# Checks that calls share

* `findDevice` asks for the device of a volume.
* `requireDirectory` asks for a directory that somebody else has made, `requireTarget` for a path
  that a volume can be published at.
* `makeTarget` makes a directory if nothing is in its place.
* `readEntries`, `entriesOf` and `entriesAt` read the mount table: all of it, the mounts of a
  device, the mounts at a path.
-/

namespace VolumeNode.Handler

/-- The permission bits of the directories that the service makes. -/
def targetMode : Nat := 0o750

/-- Finds the device of a volume. -/
def findDevice (naming : DeviceNaming) (volume : String) : Handler Device := do
  ofExcept (← ask (.findDevice naming volume))

/-- Fails if a path is not a directory that is there already. -/
def requireDirectory (path : String) : Handler Unit := do
  require (! path.isEmpty) .stagingRequired
  ofExcept (PlainPath.check path)
  let entry ← demand (← ask (.stat path)) fun e =>
    if e = .noEntry then .missingDirectory path else .unknownPath path e
  require entry.isDirectory (.notADirectory path)

/-- Makes a directory if nothing is in its place. What is there already is left alone. -/
def makeTarget (path : String) : Handler Unit := do
  match ← ask (.lstat path) with
  | .ok _ => pure ()
  | .error e =>
    require (e = .noEntry) (.directoryNotMade path e)
    demand (← ask (.makeDirectory path targetMode)) (.directoryNotMade path)

/-- Fails if a path cannot be the target of a publication. -/
def requireTarget (path : String) : Handler Unit := do
  require (! path.isEmpty) .targetRequired
  ofExcept (PlainPath.check path)

/-- Reads the mount table. -/
def readEntries : Handler (List MountEntry) := do
  demand (← ask .entries) .unreadableTable

/-- The mounts of a device. -/
def entriesOf (device : Device) : Handler (List MountEntry) := do
  return (← readEntries).filter (·.mountsNode device.node)

/-- The mounts at a path. -/
def entriesAt (path : String) : Handler (List MountEntry) := do
  return (← readEntries).filter (·.path == path)

end VolumeNode.Handler
