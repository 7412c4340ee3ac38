import VolumeNode.Call.Refusal
import VolumeNode.Text.LowerCase

/-!
# Access to a volume

What a request says about the use of a volume, and what follows for mounting it.

* `Capability` is the access type (a mounted filesystem or a raw device) with the access mode.
  `AccessMode.ofNumber` reads the number of a mode; unknown numbers read as `unknown`. A request
  holds it as a `CapabilityMessage`.
* `FsType.choose` gives the filesystem to use: the default for an empty name, otherwise one of the
  supported ones, whose name may be written with capitals.
* `MountPlan.ofRequest` says how a volume with a capability is to be mounted, or why that cannot be
  done. The access type is looked at first, then the filesystem, then the mode.
-/

namespace VolumeNode

/-! ## 1. Access -/

/-- How the volume is given to the workload. -/
inductive AccessType where
  /-- As a mounted filesystem. -/
  | mount (fsType : String) (flags : List String)
  /-- As a raw device. -/
  | block
deriving DecidableEq, Repr

/-- Who may use the volume, and how. -/
inductive AccessMode where
  | unknown
  | singleNodeWriter
  | singleNodeReaderOnly
  | multiNodeReaderOnly
  | multiNodeSingleWriter
  | multiNodeMultiWriter
  | singleNodeSingleWriter
  | singleNodeMultiWriter
deriving DecidableEq, Repr

namespace AccessMode

/-- The mode with a number. -/
def ofNumber : Int → AccessMode
  | 1 => singleNodeWriter
  | 2 => singleNodeReaderOnly
  | 3 => multiNodeReaderOnly
  | 4 => multiNodeSingleWriter
  | 5 => multiNodeMultiWriter
  | 6 => singleNodeSingleWriter
  | 7 => singleNodeMultiWriter
  | _ => unknown

/-- The name of a mode. -/
def text : AccessMode → String
  | unknown => "unknown"
  | singleNodeWriter => "single-node-writer"
  | singleNodeReaderOnly => "single-node-reader-only"
  | multiNodeReaderOnly => "multi-node-reader-only"
  | multiNodeSingleWriter => "multi-node-single-writer"
  | multiNodeMultiWriter => "multi-node-multi-writer"
  | singleNodeSingleWriter => "single-node-single-writer"
  | singleNodeMultiWriter => "single-node-multi-writer"

/-- Whether a mode asks for reading only; the unknown mode says nothing. -/
def readOnly? : AccessMode → Option Bool
  | unknown => none
  | singleNodeReaderOnly | multiNodeReaderOnly => some true
  | singleNodeWriter | multiNodeSingleWriter | multiNodeMultiWriter | singleNodeSingleWriter
  | singleNodeMultiWriter => some false

end AccessMode

/-- What a request says about the use of a volume. -/
structure Capability where
  accessType : Option AccessType
  accessMode : AccessMode
deriving DecidableEq, Repr

/-- A capability as a request holds it: the mode is a number, or missing. -/
structure CapabilityMessage where
  accessType : Option AccessType
  mode : Option Int32
deriving DecidableEq, Repr

/-- Reads a capability; a mode that is missing reads as unknown too. -/
def Capability.ofMessage (m : CapabilityMessage) : Capability :=
  ⟨m.accessType, (m.mode.map fun n => AccessMode.ofNumber n.toInt).getD .unknown⟩

/-! ## 2. Filesystem types -/

namespace FsType

/-- The filesystem of a volume that asks for none. -/
def default : String := "ext4"

/-- The filesystems that can be made and mounted. -/
def supported : List String := ["ext4", "ext3", "xfs"]

/-- The filesystem to use for a name. -/
def choose (name : String) : Except Refusal String :=
  let lowered := String.ofList (Text.toLower name.toList)
  if lowered.isEmpty then .ok default
  else if supported.contains lowered then .ok lowered
  else .error (.unsupportedFsType lowered supported)

end FsType

/-! ## 3. Mount plans -/

/-- The option that a mount for reading only has, or one for reading and writing. -/
def accessOption (readOnly : Bool) : String :=
  if readOnly then "ro" else "rw"

/-- How a volume is to be mounted. -/
structure MountPlan where
  fsType : String
  flags : List String
  readOnly : Bool
deriving DecidableEq, Repr

namespace MountPlan

/-- The option that a mount by this plan has. -/
def accessOption (p : MountPlan) : String :=
  VolumeNode.accessOption p.readOnly

/-- The plan for a capability. -/
def ofCapability (c : Capability) : Except Refusal MountPlan :=
  match c.accessType with
  | some (.mount fsType flags) =>
    match FsType.choose fsType with
    | .error e => .error e
    | .ok fsType =>
      match c.accessMode.readOnly? with
      | none => .error .accessModeRequired
      | some readOnly => .ok ⟨fsType, flags, readOnly⟩
  | _ => .error .mountAccessRequired

/-- The plan for the capability of a request, if it has one. -/
def ofRequest : Option Capability → Except Refusal MountPlan
  | none => .error .capabilityRequired
  | some c => ofCapability c

/-- The plan for the capability that a request holds. -/
def ofMessage (m : Option CapabilityMessage) : Except Refusal MountPlan :=
  ofRequest (m.map Capability.ofMessage)

end MountPlan

end VolumeNode
