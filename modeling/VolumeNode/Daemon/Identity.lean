/-!
# Identity

How the driver names itself to the orchestrator, and whether it is ready. It serves nodes only, so
it has no further capabilities to tell.
-/

namespace VolumeNode

/-- The driver as the orchestrator sees it. -/
structure Identity where
  driverName : String
deriving DecidableEq, Repr

/-- Name and version of a driver. -/
structure PluginInfo where
  name : String
  vendorVersion : String
  manifest : List (String × String)
deriving DecidableEq, Repr

namespace Identity

/-- The name of a driver that is not told another. -/
def defaultName : String := "csi.pvblock.io"

/-- The version of the driver. -/
def version : String := "0.1.0"

/-- A driver that is not told its name. -/
def default : Identity := ⟨defaultName⟩

/-- Name and version. -/
def info (i : Identity) : PluginInfo := ⟨i.driverName, version, []⟩

/-- The capabilities of the driver beyond serving its node. -/
def capabilities (_ : Identity) : List String := []

/-- A driver that answers is ready. -/
def ready (_ : Identity) : Option Bool := some true

end Identity

end VolumeNode
