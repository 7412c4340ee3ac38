/-!
# Socket addresses

An internet address with a port, and its text.

* `SocketAddress` has the two families of addresses: four bytes, or eight groups of 16 bits with a
  scope.
* `text` writes an address in its short form: the longest run of zero groups, of two or more, is
  left out (the first of several), and a mapped address of the first family is written as one.
* `parse` reads every form: `readNumber` and the readers built from it take as much as they can and
  give the rest of the text back.
-/

namespace VolumeNode

/-! ## 1. Addresses -/

/-- An address of four bytes. -/
structure Ipv4 where
  a : UInt8
  b : UInt8
  c : UInt8
  d : UInt8
deriving DecidableEq, Repr

/-- An address of eight groups. -/
structure Ipv6 where
  groups : List UInt16
  size : groups.length = 8
deriving DecidableEq, Repr

/-- An address with a port. -/
inductive SocketAddress where
  | v4 (address : Ipv4) (port : UInt16)
  | v6 (address : Ipv6) (scope : UInt32) (port : UInt16)
deriving DecidableEq, Repr

/-! ## 2. Writing -/

/-- A number in base 10. -/
def decimal (n : Nat) : List Char := Nat.toDigits 10 n

/-- A number in base 16. -/
def hexadecimal (n : Nat) : List Char := Nat.toDigits 16 n

namespace Ipv4

/-- The four bytes between dots. -/
def text (x : Ipv4) : List Char :=
  decimal x.a.toNat ++ '.' :: decimal x.b.toNat ++ '.' :: decimal x.c.toNat ++
    '.' :: decimal x.d.toNat

/-- The two groups that hold the four bytes. -/
def groups (x : Ipv4) : List UInt16 :=
  [x.a.toUInt16 * 256 + x.b.toUInt16, x.c.toUInt16 * 256 + x.d.toUInt16]

/-- The four bytes that two groups hold. -/
def ofGroups (g h : UInt16) : Ipv4 :=
  ⟨(g / 256).toUInt8, g.toUInt8, (h / 256).toUInt8, h.toUInt8⟩

end Ipv4

namespace Ipv6

/-- Groups between colons. -/
def groupsText : List UInt16 → List Char
  | [] => []
  | [g] => hexadecimal g.toNat
  | g :: gs => hexadecimal g.toNat ++ ':' :: groupsText gs

/-- The length of the run of zero groups at the front. -/
def zeroRun (gs : List UInt16) : Nat :=
  (gs.takeWhile (· == 0)).length

/-- Where the longest run of zero groups starts, and its length; the first of several. -/
def longestZeros : List UInt16 → Nat × Nat
  | [] => (0, 0)
  | g :: gs =>
    let here := zeroRun (g :: gs)
    let (start, length) := longestZeros gs
    if here ≥ length then (0, here) else (start + 1, length)

/-- The address of the first family that an address stands for. -/
def mapped? : List UInt16 → Option Ipv4
  | [0, 0, 0, 0, 0, 0xFFFF, g, h] => some (Ipv4.ofGroups g h)
  | _ => none

/-- An address in its short form. -/
def text (x : Ipv6) : List Char :=
  match mapped? x.groups with
  | some v4 => [':', ':', 'f', 'f', 'f', 'f', ':'] ++ v4.text
  | none =>
    let (start, length) := longestZeros x.groups
    if length > 1 then
      groupsText (x.groups.take start) ++ [':', ':'] ++ groupsText (x.groups.drop (start + length))
    else groupsText x.groups

end Ipv6

namespace SocketAddress

/-- The text of an address with its port. -/
def text : SocketAddress → String
  | v4 address port => String.ofList (address.text ++ ':' :: decimal port.toNat)
  | v6 address scope port =>
    let zone := if scope = 0 then [] else '%' :: decimal scope.toNat
    String.ofList ('[' :: address.text ++ zone ++ ']' :: ':' :: decimal port.toNat)

/-- The port of an address. -/
def port : SocketAddress → UInt16
  | v4 _ port => port
  | v6 _ _ port => port

end SocketAddress

/-! ## 3. Reading -/

namespace AddressReader

/-- The value of a digit in base 10 or 16. -/
def digit? (base : Nat) (c : Char) : Option Nat :=
  let value :=
    if '0' ≤ c ∧ c ≤ '9' then some (c.toNat - '0'.toNat)
    else if 'a' ≤ c ∧ c ≤ 'f' then some (c.toNat - 'a'.toNat + 10)
    else if 'A' ≤ c ∧ c ≤ 'F' then some (c.toNat - 'A'.toNat + 10)
    else none
  value.filter (· < base)

/-- The value of digits. -/
def digitsValue (base : Nat) (digits : List Nat) : Nat :=
  digits.foldl (fun n d => n * base + d) 0

/-- The digits at the front of a text. -/
def takeDigits (base : Nat) : List Char → List Nat × List Char
  | [] => ([], [])
  | c :: rest =>
    match digit? base c with
    | none => ([], c :: rest)
    | some d => let (ds, rest') := takeDigits base rest; (d :: ds, rest')

/-- Reads a number below a limit, of so many digits at most. -/
def readNumber (base limit : Nat) (longest : Option Nat) (leadingZeros : Bool)
    (text : List Char) : Option (Nat × List Char) :=
  let (digits, rest) := takeDigits base text
  if digits.isEmpty then none
  else if longest.any (digits.length > ·) then none
  else if ! leadingZeros && digits.length > 1 && digits.head? = some 0 then none
  else if digitsValue base digits < limit then some (digitsValue base digits, rest)
  else none

/-- Reads one given character. -/
def readChar (c : Char) : List Char → Option (List Char)
  | [] => none
  | d :: rest => if d = c then some rest else none

/-- Reads a byte without zeros in front. -/
def readByte (text : List Char) : Option (UInt8 × List Char) :=
  (readNumber 10 256 (some 3) false text).map fun r => (UInt8.ofNat r.1, r.2)

/-- Reads four bytes between dots. -/
def readIpv4 (text : List Char) : Option (Ipv4 × List Char) := do
  let (a, text) ← readByte text
  let (b, text) ← readByte (← readChar '.' text)
  let (c, text) ← readByte (← readChar '.' text)
  let (d, text) ← readByte (← readChar '.' text)
  return (⟨a, b, c, d⟩, text)

/-- Reads the colon in front of every group but the first. -/
def readColon (first : Bool) (text : List Char) : Option (List Char) :=
  if first then some text else readChar ':' text

/-- Reads up to so many groups. The last two may be written as four bytes; then no group may
    follow, which the flag reports. -/
def readGroups : Nat → (first : Bool) → List Char → List UInt16 × Bool × List Char
  | 0, _, text => ([], false, text)
  | n + 1, first, text =>
    match readColon first text with
    | none => ([], false, text)
    | some inner =>
      match if n = 0 then none else readIpv4 inner with
      | some (v4, rest) => (v4.groups, true, rest)
      | none =>
        match readNumber 16 65536 (some 4) true inner with
        | none => ([], false, text)
        | some (g, rest) =>
          let (gs, dotted, rest') := readGroups n false rest
          (UInt16.ofNat g :: gs, dotted, rest')

/-- Eight groups as an address. -/
def ofGroups (gs : List UInt16) : Option Ipv6 :=
  if h : gs.length = 8 then some ⟨gs, h⟩ else none

/-- Reads eight groups, or fewer around a double colon that stands for the missing ones. -/
def readIpv6 (text : List Char) : Option (Ipv6 × List Char) := do
  let (front, dotted, text) := readGroups 8 true text
  if front.length = 8 then
    return (← ofGroups front, text)
  else if dotted then
    none
  else
    let text ← readChar ':' (← readChar ':' text)
    let (back, _, text) := readGroups (8 - (front.length + 1)) true text
    let zeros := List.replicate (8 - front.length - back.length) 0
    return (← ofGroups (front ++ zeros ++ back), text)

/-- Reads a colon and a port. -/
def readPort (text : List Char) : Option (UInt16 × List Char) := do
  let (port, text) ← readNumber 10 65536 none true (← readChar ':' text)
  return (UInt16.ofNat port, text)

/-- Reads a scope if there is one; none is scope 0. -/
def readScope (text : List Char) : UInt32 × List Char :=
  match (readChar '%' text).bind (readNumber 10 4294967296 none true) with
  | some (scope, rest) => (UInt32.ofNat scope, rest)
  | none => (0, text)

/-- Reads an address of the first family with a port. -/
def readV4 (text : List Char) : Option (SocketAddress × List Char) := do
  let (address, text) ← readIpv4 text
  let (port, text) ← readPort text
  return (.v4 address port, text)

/-- Reads an address of the second family, in brackets, with a port. -/
def readV6 (text : List Char) : Option (SocketAddress × List Char) := do
  let (address, text) ← readIpv6 (← readChar '[' text)
  let (scope, text) := readScope text
  let (port, text) ← readPort (← readChar ']' text)
  return (.v6 address scope port, text)

/-- What a reader took, if it took the whole text. -/
def whole {α : Type} : Option (α × List Char) → Option α
  | some (a, []) => some a
  | _ => none

end AddressReader

/-- Reads an address with its port. -/
def SocketAddress.parse (s : String) : Option SocketAddress :=
  (AddressReader.whole (AddressReader.readV4 s.toList)).or
    (AddressReader.whole (AddressReader.readV6 s.toList))

end VolumeNode
