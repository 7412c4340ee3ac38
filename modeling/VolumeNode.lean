import VolumeNode.Main
import VolumeNode.FileTree.Listing
import VolumeNode.Mount.MemoryTable
import VolumeNode.Mount.TableWriter
import VolumeNode.LockTable
import VolumeNode.Proofs.Isolation
import VolumeNode.Proofs.Lifecycle
import VolumeNode.Proofs.Repetition
import VolumeNode.Proofs.FileTree.Growth
import VolumeNode.Proofs.RoundTrip
import VolumeNode.Proofs.Lock.Consistency
import VolumeNode.Proofs.Lock.Exclusion
import VolumeNode.Proofs.Lock.Turn
import VolumeNode.Proofs.Exposure
import VolumeNode.Proofs.Republication
import VolumeNode.Proofs.Lock.Leftover
import VolumeNode.Proofs.Lock.Independence
import VolumeNode.Proofs.Call.Confinement
import VolumeNode.Proofs.Text.Ascii
import VolumeNode.Proofs.Mount.Formatting
import VolumeNode.Proofs.Traffic.Serial
import VolumeNode.Proofs.Traffic.Ending
import VolumeNode.Proofs.Serialisation
import VolumeNode.Proofs.Mount.MountPoint
import VolumeNode.Proofs.Mount.TableText
import VolumeNode.Proofs.UnreadableTable
import VolumeNode.Proofs.Atomicity
import VolumeNode.Proofs.Footprint
import VolumeNode.Proofs.Cleanup
import VolumeNode.Proofs.Commands
import VolumeNode.Proofs.Commutation
import VolumeNode.Proofs.Formats
import VolumeNode.Proofs.Stacks
import VolumeNode.Proofs.Accounting
import VolumeNode.Proofs.Unpublication
import VolumeNode.Proofs.Decision
import VolumeNode.Proofs.Mount.Acceptance
import VolumeNode.Proofs.Matching
import VolumeNode.Proofs.Mount.Binding
import VolumeNode.Proofs.Mount.Escape
import VolumeNode.Proofs.ReadOnlyPublication
import VolumeNode.Proofs.FileTree.Links
import VolumeNode.Proofs.Resolution
import VolumeNode.Proofs.Retry
import VolumeNode.Proofs.Text.Lower
import VolumeNode.Proofs.Volume.Access
import VolumeNode.Proofs.Address.Endpoint
