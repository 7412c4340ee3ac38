import VolumeNode.Call.Refusal

/-!
# The device of a volume

An attached volume shows as a link in one directory, named by a fixed text and the volume ID.

* `DeviceNaming` is that directory and that text. The path of the directory may be any bytes; tools
  and refusals get it as text (`Text.ofBytes`), so another path if it is none.
* `DeviceNaming.device` finds the link and the device node it leads to. Names in the directory are
  compared as text; the link is then looked up under its name.
-/

namespace VolumeNode

/-- The device of a volume. -/
structure Device where
  /-- The link of the volume, by the text of its path. -/
  link : String
  /-- The node behind the link, by the text of its path without links. -/
  node : String
  /-- The name of the link. -/
  name : String
deriving DecidableEq, Repr

/-- Where the links of volumes are, and how they are named. -/
structure DeviceNaming where
  /-- The path of the directory, by its bytes: it need be no text. -/
  directory : List UInt8
  /-- What stands before the volume ID. -/
  lead : String
deriving DecidableEq, Repr

namespace DeviceNaming

open Location

/-- The naming of a node that is not told otherwise. -/
def default : DeviceNaming := ⟨Text.bytesOf "/dev/disk/by-id", "wwn-0x"⟩

/-- The name of the link of a volume. -/
def linkOf (d : DeviceNaming) (volume : String) : String :=
  d.lead ++ volume

/-- The path of a name in a directory. -/
def entryPath (directory : List UInt8) (name : String) : List UInt8 :=
  if directory.getLast? = some slash then directory ++ Text.bytesOf name
  else directory ++ slash :: Text.bytesOf name

/-- The path of the link of a volume. -/
def linkPath (d : DeviceNaming) (volume : String) : List UInt8 :=
  entryPath d.directory (d.linkOf volume)

/-- The path of the link of a volume, as text. -/
def linkText (d : DeviceNaming) (volume : String) : String :=
  Text.ofBytes (d.linkPath volume)

/-- The device that a path leads to. -/
def deviceAt (t : FileTree) (path : List UInt8) (name : String) : Except DeviceFault Device :=
  match t.lstatBytes path with
  | .error e => .error (.unreachable e)
  | .ok _ =>
    match t.realPlace path with
    | .error e => .error (.unreachable e)
    | .ok place =>
      match t.statBytes place.path with
      | .error e => .error (.unreachable e)
      | .ok entry =>
        if entry.isDevice then .ok ⟨Text.ofBytes path, place.text, name⟩
        else .error (.notADevice (Text.ofBytes path))

/-- The device of a volume. -/
def device (d : DeviceNaming) (t : FileTree) (volume : String) : Except Refusal Device :=
  if volume.isEmpty then .error .volumeRequired
  else
    match t.readDirectory d.directory with
    | .error e => .error (.unreadableDirectory (Text.ofBytes d.directory) e)
    | .ok names =>
      if names.any fun n => Text.ofBytes n == d.linkOf volume then
        (deviceAt t (d.linkPath volume) (d.linkOf volume)).mapError (.unusableDevice volume)
      else .error (.notAttached volume)

end DeviceNaming

end VolumeNode
