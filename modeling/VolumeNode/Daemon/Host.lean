import VolumeNode.Address.Socket
import VolumeNode.SystemError

/-!
# The machine and its listeners

What a daemon finds on its machine, and how it comes to listen there.

* A `Listener` takes calls on one port, at one address of the first family or at all of them.
* `Listener.ofAddress` is the listener that an address asks for. An address of the first family need
  not be one of the machine. Of the second family the machine has none, so only the wildcard and the
  mapped addresses of the first family are left.
* Two listeners on one port exclude each other unless they take calls at two different addresses
  (`overlaps_iff`). `Host.listen` adds a listener.
-/

namespace VolumeNode

/-! ## 1. Kinds of addresses -/

namespace Ipv4

/-- The address that stands for all. -/
def wildcard : Ipv4 := ⟨0, 0, 0, 0⟩

end Ipv4

namespace Ipv6

/-- Whether an address stands for all. -/
def isWildcard (x : Ipv6) : Bool :=
  x.groups.all (· == 0)

/-- Whether an address names a group of machines. -/
def isMulticast (x : Ipv6) : Bool :=
  x.groups.head?.any (· / 256 == 0xFF)

/-- Whether an address means something on one link only. -/
def isLinkLocal (x : Ipv6) : Bool :=
  x.groups.head?.any (· / 64 == 0x3FA)

end Ipv6

/-! ## 2. Listeners -/

/-- Takes calls on a port. -/
structure Listener where
  /-- The address of the first family at which calls are taken; `none` for all. -/
  address : Option Ipv4
  port : UInt16
deriving DecidableEq, Repr

namespace Listener

/-- The listener at an address of the first family. -/
def atIpv4 (address : Ipv4) (port : UInt16) : Listener :=
  ⟨if address = .wildcard then none else some address, port⟩

/-- The number of the only link of every machine, the one to itself. -/
def ownLink : UInt32 := 1

/-- The listener that an address asks for. -/
def ofAddress : SocketAddress → Except SystemError Listener
  | .v4 address port => .ok (atIpv4 address port)
  | .v6 address scope port =>
    match Ipv6.mapped? address.groups with
    | some v4 => .ok (atIpv4 v4 port)
    | none =>
      if address.isWildcard then .ok ⟨none, port⟩
      else if address.isMulticast then .error .invalid
      else if address.isLinkLocal && scope == 0 then .error .invalid
      else if address.isLinkLocal && scope != ownLink then .error .noDevice
      else .error .addressNotAvailable

/-- Whether some call would be for both of two listeners. -/
def overlaps (a b : Listener) : Bool :=
  a.port == b.port && (a.address.isNone || b.address.isNone || a.address == b.address)

theorem overlaps_iff (a b : Listener) :
    a.overlaps b = true ↔
      a.port = b.port ∧ (a.address = none ∨ b.address = none ∨ a.address = b.address) := by
  simp [overlaps, or_assoc]

/-- Overlapping goes both ways. -/
theorem overlaps_comm (a b : Listener) : a.overlaps b = b.overlaps a := by
  rw [Bool.eq_iff_iff, overlaps_iff, overlaps_iff]
  constructor
  · rintro ⟨hp, ha | hb | he⟩
    · exact ⟨hp.symm, .inr (.inl ha)⟩
    · exact ⟨hp.symm, .inl hb⟩
    · exact ⟨hp.symm, .inr (.inr he.symm)⟩
  · rintro ⟨hp, hb | ha | he⟩
    · exact ⟨hp.symm, .inr (.inl hb)⟩
    · exact ⟨hp.symm, .inl ha⟩
    · exact ⟨hp.symm, .inr (.inr he.symm)⟩

end Listener

/-! ## 3. The machine -/

/-- What the daemon finds on its machine. -/
structure Host where
  /-- The name of the machine. -/
  name : String
  /-- Those who listen already. -/
  listeners : List Listener
  /-- Whether connections to an address of the machine come through. -/
  connects : Bool
deriving DecidableEq, Repr

namespace Host

/-- Adds a listener. Port 0 stands for any free one. -/
def add (h : Host) (l : Listener) : Except SystemError Host :=
  if l.port = 0 then .ok h
  else if h.listeners.any l.overlaps then .error .addressInUse
  else .ok { h with listeners := l :: h.listeners }

/-- Listens on an address. -/
def listen (h : Host) (address : SocketAddress) : Except SystemError Host := do
  h.add (← Listener.ofAddress address)

end Host

end VolumeNode
