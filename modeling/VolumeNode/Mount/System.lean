import VolumeNode.FileTree.Walk
import VolumeNode.Mount.Entry

/-!
# Mount systems

What the service asks for in order to mount and unmount. The service works over any `MountSystem`;
the library has two of them, a table in memory and the tools of the machine.

* `MountFailure` is why a mount system cannot do what it is asked for.
* A `MountSystem σ` answers each request from its state `σ`. It may look at the file tree but does
  not change it.
-/

namespace VolumeNode

/-- Why a mount system fails. -/
inductive MountFailure where
  /-- A tool ran and failed with this text. -/
  | toolFailed (tool text : String)
  /-- The mount table cannot be read, for this reason. -/
  | unreadable (reason : String)
  /-- The machine refused to start a tool or to read a file. -/
  | system (e : SystemError)
deriving DecidableEq, Repr

/-- The text of a failure. -/
def MountFailure.message : MountFailure → String
  | .toolFailed tool text => tool ++ " failed: " ++ text
  | .unreadable reason => "failed to parse mount table: " ++ reason
  | .system e => "IO error: " ++ e.message

/-- The answers to requests about mounts, from a state. -/
structure MountSystem (σ : Type) where
  /-- The whole mount table. -/
  entries : FileTree → σ → Except MountFailure (List MountEntry) × σ
  /-- Mounts a device on a directory. -/
  mount : (source target fsType : String) → (flags : List String) → FileTree → σ →
    Except MountFailure Unit × σ
  /-- Mounts a device on a directory, and makes a filesystem on it first if it has none. -/
  mountFormatted : (source target fsType : String) → (flags : List String) → FileTree → σ →
    Except MountFailure Unit × σ
  /-- Mounts what is mounted on a directory on another one as well. -/
  bindTo : (source target : String) → (flags : List String) → FileTree → σ →
    Except MountFailure Unit × σ
  /-- Takes the topmost mount off a directory. -/
  unmount : (target : String) → FileTree → σ → Except MountFailure Unit × σ

end VolumeNode
