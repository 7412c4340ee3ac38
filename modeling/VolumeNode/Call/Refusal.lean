import VolumeNode.Mount.System
import VolumeNode.Call.Status

/-!
# Refusals

Why a call is refused.

* `Refusal` has one constructor for each cause, with what the answer names about it.
* `code` is the class of a cause, `message` its text, `status` both together.
-/

namespace VolumeNode

/-- Why the device of a volume cannot be used. -/
inductive DeviceFault where
  /-- The system refused a question about its link. -/
  | unreachable (e : SystemError)
  /-- The link leads to something else than a device node. -/
  | notADevice (path : String)
deriving DecidableEq, Repr

/-- The text of a fault. -/
def DeviceFault.message : DeviceFault → String
  | .unreachable e => e.message
  | .notADevice path => path ++ " is not a block device"

/-- Why a call is refused. -/
inductive Refusal where
  -- The volume and its device.
  | volumeRequired
  | unreadableDirectory (directory : String) (e : SystemError)
  | notAttached (volume : String)
  | unusableDevice (volume : String) (fault : DeviceFault)
  -- Paths.
  | stagingRequired
  | targetRequired
  | relativePath (path : String)
  | pathTraversal
  | controlCharacter
  | missingDirectory (path : String)
  | unknownPath (path : String) (e : SystemError)
  | notADirectory (path : String)
  | directoryNotMade (path : String) (e : SystemError)
  | directoryNotRemoved (path : String) (e : SystemError)
  -- The capability.
  | capabilityRequired
  | mountAccessRequired
  | accessModeRequired
  | unsupportedFsType (fsType : String) (supported : List String)
  -- The mount table.
  | unreadableTable (e : MountFailure)
  | mountedOtherwise (volume target : String) (options : List String)
  | mountedElsewhere (node volume : String)
  | mountedTwice (volume : String) (paths : List String)
  | notMountedAt (volume target path : String)
  | publishedOtherwise (volume target : String)
  | notStaged (volume staging : String)
  -- Mounting.
  | mountFailed (volume target : String) (e : MountFailure)
  | formatFailed (volume target : String) (e : MountFailure)
  | bindFailed (volume target : String) (e : MountFailure)
  | unmountFailed (target : String) (e : MountFailure)
deriving DecidableEq, Repr

namespace Refusal

/-- The class of a cause. -/
def code : Refusal → StatusCode
  | volumeRequired | stagingRequired | targetRequired | relativePath _ | pathTraversal
  | controlCharacter | capabilityRequired | mountAccessRequired | accessModeRequired
  | unsupportedFsType .. => .invalidArgument
  | notAttached _ => .notFound
  | missingDirectory _ | notADirectory _ | notStaged .. => .failedPrecondition
  | mountedOtherwise .. | publishedOtherwise .. => .alreadyExists
  | unreadableDirectory .. | unusableDevice .. | unknownPath .. | directoryNotMade ..
  | directoryNotRemoved .. | unreadableTable _ | mountedElsewhere .. | mountedTwice ..
  | notMountedAt .. | mountFailed .. | formatFailed .. | bindFailed ..
  | unmountFailed .. => .internal

/-- The text of a cause. -/
def message : Refusal → String
  | volumeRequired => "Volume ID is required"
  | unreadableDirectory directory e =>
    s!"Error trying to read attached disks in {directory}: {e.message}"
  | notAttached volume => s!"Volume ID: {volume} not attached to node"
  | unusableDevice volume fault =>
    s!"error getting block device for volume: {volume}, err: {fault.message}"
  | stagingRequired => "target path required"
  | targetRequired => "Target path is required"
  | relativePath path => s!"Path must be absolute: {path}"
  | pathTraversal => "Path cannot contain '..' (path traversal)"
  | controlCharacter => "Path cannot contain control characters"
  | missingDirectory path => s!"target: {path} not pre-created"
  | unknownPath path e => s!"failed to stat target {path}, err: {e.message}"
  | notADirectory path => s!"existing path: {path} is not a directory"
  | directoryNotMade path e => s!"Unable to create target dir: {path}, err: {e.message}"
  | directoryNotRemoved path e => s!"Unable to remove target dir: {path}, err: {e.message}"
  | capabilityRequired => "Volume capability is required"
  | mountAccessRequired => "Only Mount access type supported"
  | accessModeRequired => "Volume capability access mode is required"
  | unsupportedFsType fsType supported =>
    let names := String.intercalate ", " supported
    s!"Unsupported filesystem type: {fsType}. Supported: {names}"
  | unreadableTable e =>
    s!"could not reliably determine existing mount status: {e.message}"
  | mountedOtherwise volume target options =>
    let shown := String.intercalate "," options
    s!"access mode conflicts with existing mount of volume {volume} at {target} (options: {shown})"
  | mountedElsewhere node volume =>
    s!"device {node} of volume {volume} already in use and mounted elsewhere"
  | mountedTwice volume paths =>
    let places := String.intercalate ", " paths
    s!"volume: {volume} appears mounted in multiple places: {places}"
  | notMountedAt volume target path =>
    s!"volume {volume} is mounted someplace other than target: {target}, mounted to: {path}"
  | publishedOtherwise volume target =>
    s!"volume {volume} previously published to {target} with different options"
  | notStaged volume staging => s!"Volume ID: {volume} does not appear staged to {staging}"
  | mountFailed volume target e =>
    s!"error with mount during staging of volume {volume} to {target}: {e.message}"
  | formatFailed volume target e =>
    s!"error with format and mount during staging of volume {volume} to {target}: {e.message}"
  | bindFailed volume target e =>
    s!"error publishing volume {volume} to target path {target}: {e.message}"
  | unmountFailed target e => s!"Error unmounting target {target}: {e.message}"

/-- The status in which a call fails for a cause. -/
def status (e : Refusal) : Status := ⟨e.code, e.message⟩

/-- No call is refused because it is not implemented. -/
theorem code_ne_unimplemented (e : Refusal) : e.code ≠ .unimplemented := by
  cases e <;> simp [code]

end Refusal

end VolumeNode
