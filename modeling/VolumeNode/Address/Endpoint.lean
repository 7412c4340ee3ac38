import VolumeNode.Address.Socket
import VolumeNode.Text.Quoted

/-!
# Endpoints

Where the service listens: a socket in the file tree, or an address.

* `Endpoint.parse` reads `unix://` with an absolute path, such a path alone, or `tcp://` with an
  address; `Endpoint.text` writes an endpoint with its scheme.
* `EndpointFault` is why a text is no endpoint.
-/

namespace VolumeNode

/-- Where the service listens. -/
inductive Endpoint where
  | unix (path : String)
  | tcp (address : SocketAddress)
deriving DecidableEq, Repr

/-- Why a text is no endpoint. -/
inductive EndpointFault where
  | unsupportedScheme (text : String)
  | invalidSocketPath (text : String)
  | invalidAddress (address : String)
deriving DecidableEq, Repr

namespace EndpointFault

/-- The text of an error. -/
def message : EndpointFault → String
  | unsupportedScheme text =>
    s!"unsupported endpoint scheme: {text} (expected unix:// or tcp://)"
  | invalidSocketPath text => s!"unix endpoint must be an absolute socket path: {text}"
  | invalidAddress address => s!"invalid tcp endpoint address: {address}"

/-- The form in which the program ends with such an error. -/
def report : EndpointFault → String
  | unsupportedScheme text => "UnsupportedScheme(" ++ Text.quote text ++ ")"
  | invalidSocketPath text => "InvalidSocketPath(" ++ Text.quote text ++ ")"
  | invalidAddress address => "InvalidAddress(" ++ Text.quote address ++ ")"

end EndpointFault

namespace Endpoint

/-- What follows a given start of a text. -/
def after? : (start text : List Char) → Option (List Char)
  | [], text => some text
  | _ :: _, [] => none
  | c :: start, d :: text => if c = d then after? start text else none

theorem after?_eq_some_iff {start text rest : List Char} :
    after? start text = some rest ↔ text = start ++ rest := by
  induction start generalizing text with
  | nil => simp [after?, eq_comm]
  | cons c start ih =>
    cases text with
    | nil => simp [after?]
    | cons d text =>
      by_cases h : c = d
      · subst h; simp [after?, ih]
      · simp [after?, h, Ne.symm h]

/-- The scheme of sockets. -/
def unixScheme : List Char := ['u', 'n', 'i', 'x', ':', '/', '/']

/-- The scheme of addresses. -/
def tcpScheme : List Char := ['t', 'c', 'p', ':', '/', '/']

/-- Reads an endpoint. -/
def parse (s : String) : Except EndpointFault Endpoint :=
  match after? unixScheme s.toList with
  | some path =>
    if path.head? = some '/' then .ok (.unix (String.ofList path))
    else .error (.invalidSocketPath s)
  | none =>
    match after? tcpScheme s.toList with
    | some address =>
      match SocketAddress.parse (String.ofList address) with
      | some a => .ok (.tcp a)
      | none => .error (.invalidAddress (String.ofList address))
    | none =>
      if s.toList.head? = some '/' then .ok (.unix s) else .error (.unsupportedScheme s)

/-- An endpoint with its scheme. -/
def text : Endpoint → String
  | unix path => String.ofList unixScheme ++ path
  | tcp address => String.ofList tcpScheme ++ address.text

end Endpoint

end VolumeNode
