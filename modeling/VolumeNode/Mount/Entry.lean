/-!
# Entries of the mount table

* A `MountEntry` is one mount: what is mounted, where, and how.
* `carries` asks for an option among those of the mount.
* `mountsNode` asks whether a device is what is mounted: the entry names the node itself, or it
  names a placeholder and its source is the node. For entries whose source is their device the
  second way adds nothing (`mountsNode_of_source_eq_device`).
-/

namespace VolumeNode

/-- One entry of the mount table. -/
structure MountEntry where
  /-- The device as the table names it: a node, or a placeholder. -/
  device : String
  /-- What is mounted; it differs from the device only for placeholders. -/
  source : String
  /-- Where it is mounted. -/
  path : String
  fsType : String
  /-- The options of this mount, in the order of the table. -/
  options : List String
deriving DecidableEq, Repr

namespace MountEntry

/-- Names of devices that stand for the tree of device nodes, not for a node. -/
def placeholders : List String := ["devtmpfs", "udev"]

/-- Whether the options of the mount hold an option. -/
def carries (m : MountEntry) (option : String) : Bool :=
  m.options.contains option

/-- Whether the entry mounts the device with this node. -/
def mountsNode (m : MountEntry) (node : String) : Bool :=
  m.device == node || (placeholders.contains m.device && m.source == node)

theorem carries_iff (m : MountEntry) (option : String) :
    m.carries option = true ↔ option ∈ m.options := by
  simp [carries]

theorem mountsNode_iff (m : MountEntry) (node : String) :
    m.mountsNode node = true ↔
      m.device = node ∨ m.device ∈ placeholders ∧ m.source = node := by
  simp [mountsNode]

/-- An entry whose source is its device mounts that device alone. -/
theorem mountsNode_of_source_eq_device {m : MountEntry} (h : m.source = m.device)
    (node : String) : m.mountsNode node = true ↔ m.device = node := by
  rw [mountsNode_iff, h]
  exact ⟨fun h => h.elim id And.right, Or.inl⟩

end MountEntry

end VolumeNode
