import VolumeNode.Metrics
import VolumeNode.Call.Publication
import VolumeNode.Call.Staging

/-!
# The node service

The calls that the orchestrator makes on a node.

* `NodeProfile` is what the node is told: its name, how many volumes it takes, how devices are
  named.
* A `Call` is one of the four calls that mount or unmount. `Call.handler` is what it does,
  `Call.run` carries it out on a world, and `VolumeService.call` also counts it and gives the
  status.
* The other calls are answered from the profile alone.
-/

namespace VolumeNode

/-! ## 1. The node -/

/-- What a node is told. -/
structure NodeProfile where
  nodeId : String
  /-- How many volumes may be attached to the node. -/
  maxVolumes : Int
  naming : DeviceNaming
deriving DecidableEq, Repr

/-- The limit of volumes: four controllers with fifteen places each, less the boot disk. -/
def NodeProfile.defaultMaxVolumes : Int := 59

/-- What a node knows that is told its name only. -/
def NodeProfile.named (nodeId : String) : NodeProfile :=
  ⟨nodeId, defaultMaxVolumes, .default⟩

/-! ## 2. Calls that mount or unmount -/

/-- A call that mounts or unmounts. -/
inductive Call where
  | stage (r : StageRequest)
  | unstage (r : UnstageRequest)
  | publish (r : PublishRequest)
  | unpublish (r : UnpublishRequest)
deriving DecidableEq, Repr

namespace Call

/-- The volume that a call is about. -/
def volume : Call → String
  | stage r => r.volume
  | unstage r => r.volume
  | publish r => r.volume
  | unpublish r => r.volume

/-- The name under which a call is counted. -/
def operation : Call → String
  | stage _ => "node_stage_volume"
  | unstage _ => "node_unstage_volume"
  | publish _ => "node_publish_volume"
  | unpublish _ => "node_unpublish_volume"

/-- Whether a call waits for the lock of its volume. A call without a volume fails before it touches
    anything. -/
def needsLock (r : Call) : Bool :=
  ! r.volume.isEmpty

/-- What a call does. -/
def handler (naming : DeviceNaming) : Call → Handler Unit
  | stage r => Handler.stage naming r
  | unstage r => Handler.unstage naming r
  | publish r => Handler.publish naming r
  | unpublish r => Handler.unpublish naming r

/-- The steps of a call, with the outcome at their end. -/
def procedure (naming : DeviceNaming) (r : Call) : Procedure (Except Refusal Unit) :=
  (r.handler naming).run

/-- Carries a call out. -/
def run {σ : Type} (m : MountSystem σ) (naming : DeviceNaming) (r : Call) (w : World σ) :
    Except Refusal Unit × World σ :=
  (r.procedure naming).run m w

/-- The status under which an outcome is counted. -/
def outcomeStatus : Except Refusal Unit → String
  | .ok _ => Metrics.outcomeStatus none
  | .error e => Metrics.outcomeStatus (some e.code)

end Call

/-! ## 3. The service -/

/-- The service of a node over a mount system. -/
structure VolumeService (σ : Type) where
  profile : NodeProfile
  system : MountSystem σ

/-- What the service works on, and what it counted. -/
structure ServiceState (σ : Type) where
  world : World σ
  metrics : Metrics
deriving DecidableEq, Repr

/-- A capability of the service that it tells the orchestrator. -/
inductive ServiceCapability where
  | stageUnstageVolume
deriving DecidableEq, Repr

/-- The number of a capability in the call protocol. -/
def ServiceCapability.number : ServiceCapability → Nat
  | stageUnstageVolume => 1

/-- What is known about the use of a volume. -/
structure VolumeStats where
  usage : List (String × Nat)
  condition : Option String
deriving DecidableEq, Repr

/-- What the orchestrator learns about a node. -/
structure NodeInfo where
  nodeId : String
  maxVolumes : Int
  topology : Option (List (String × String))
deriving DecidableEq, Repr

namespace VolumeService

variable {σ : Type}

/-- A call that mounts or unmounts, with its status. -/
def call (s : VolumeService σ) (r : Call) (st : ServiceState σ) :
    Except Status Unit × ServiceState σ :=
  let (outcome, world) := r.run s.system s.profile.naming st.world
  (outcome.mapError Refusal.status,
    ⟨world, st.metrics.countCall r.operation (Call.outcomeStatus outcome)⟩)

/-- Carries out a question of the service's own, outside of a call. -/
def ask {α : Type} (s : VolumeService σ) (h : Handler α) (st : ServiceState σ) :
    Except Status α × ServiceState σ :=
  let (outcome, world) := h.run.run s.system st.world
  (outcome.mapError Refusal.status, { st with world })

/-- The capabilities of the service. -/
def capabilities (_ : VolumeService σ) : List ServiceCapability := [.stageUnstageVolume]

/-- What the orchestrator learns about the node. -/
def info (s : VolumeService σ) : NodeInfo := ⟨s.profile.nodeId, s.profile.maxVolumes, none⟩

/-- Nothing is known about the use of a volume. -/
def volumeStats (_ : VolumeService σ) : VolumeStats := ⟨[], none⟩

/-- Volumes are not made larger here. -/
def expand (_ : VolumeService σ) : Except Status Unit :=
  .error ⟨.unimplemented, "NodeExpandVolume is not supported"⟩

end VolumeService

end VolumeNode
