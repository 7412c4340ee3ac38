import VolumeNode.Daemon.Host
import VolumeNode.Daemon.LogLevel
import VolumeNode.Daemon.Options
import VolumeNode.Address.Endpoint
import VolumeNode.Mount.ToolBench

/-!
# The daemon's life

A daemon starts from its settings, serves until a signal ends it, and cleans up.

* `launch` opens the metrics page and the endpoint. What goes wrong ends the daemon with a report
  (`LaunchError`); the metrics address is looked at before the endpoint.
* A stale socket is removed and missing directories above it are made before it is opened anew.
* `stop` removes the socket.
* `ending` is how a daemon ends: one that its client reaches ends by itself after a signal, one that
  nobody reaches is killed by whoever started it, and leaves its socket behind.
* `callLines` are the levels of the lines that a call adds to the log.
-/

namespace VolumeNode

/-! ## 1. The start -/

/-- Why a daemon does not come to serve. -/
inductive LaunchError where
  | metricsAddress (text : String)
  | metricsPage (e : SystemError)
  | endpoint (e : EndpointFault)
  | socket (e : SystemError)
  | listener (e : SystemError)
deriving DecidableEq, Repr

/-- The report with which the daemon ends. -/
def LaunchError.report : LaunchError → String
  | metricsAddress text =>
    Text.quote s!"Invalid metrics address '{text}': invalid socket address syntax"
  | metricsPage e =>
    Text.quote s!"Failed to initialize metrics: failed to create HTTP listener: {e.message}"
  | endpoint e => e.report
  | socket e => e.report
  | listener e => "tonic::transport::Error(Transport, " ++ e.report ++ ")"

/-- The exit code with which the daemon ends. -/
def LaunchError.exitCode : Nat := 1

/-- A daemon that serves. -/
structure Daemon where
  identity : Identity
  profile : NodeProfile
  endpoint : Endpoint
  threshold : LogLevel
deriving DecidableEq, Repr

namespace Daemon

/-- Opens the metrics page, if there is to be one. -/
def openMetrics (s : Settings) (h : Host) : Except LaunchError Host :=
  match s.metricsAddress with
  | none => .ok h
  | some text =>
    match SocketAddress.parse text with
    | none => .error (.metricsAddress text)
    | some address => (h.listen address).mapError .metricsPage

/-- Keeps a changed tree, or the old one with the refusal. -/
def settle (t : FileTree) : Except SystemError FileTree → Except SystemError Unit × FileTree
  | .ok t' => (.ok (), t')
  | .error e => (.error e, t)

/-- Removes what is left of an earlier socket. -/
def clearSocket (t : FileTree) (path : String) : Except SystemError Unit × FileTree :=
  match t.stat path with
  | .ok _ => settle t (t.unlink path)
  | .error _ => (.ok (), t)

/-- Opens a socket: removes what is left of an earlier one, and makes the directories above. -/
def openSocket (t : FileTree) (path : String) : Except SystemError Unit × FileTree :=
  match clearSocket t path with
  | (.error e, t) => (.error e, t)
  | (.ok (), t) =>
    match t.makeDirectories (FileTree.parentPath path) with
    | (.error e, t) => (.error e, t)
    | (.ok (), t) => settle t (t.bindSocket path)

/-- Opens an endpoint. -/
def openEndpoint (h : Host) (t : FileTree) : Endpoint → Except LaunchError Unit × FileTree
  | .unix path =>
    let (result, t) := openSocket t path
    (result.mapError .socket, t)
  | .tcp address => (((h.listen address).mapError .listener).map fun _ => (), t)

/-- The daemon that some settings describe. -/
def ofSettings (s : Settings) (h : Host) (endpoint : Endpoint) : Daemon :=
  { identity := ⟨s.driverName⟩
    profile := ⟨s.nodeId.getD h.name, s.maxVolumes, s.naming⟩
    endpoint
    threshold := .ofText s.logLevel }

/-- Opens the metrics page and reads the endpoint, which is still to be opened. -/
def prepare (s : Settings) (h : Host) : Except LaunchError (Daemon × Host) :=
  match openMetrics s h with
  | .error e => .error e
  | .ok h' =>
    match Endpoint.parse s.endpoint with
    | .error e => .error (.endpoint e)
    | .ok endpoint => .ok (ofSettings s h endpoint, h')

/-- Starts a daemon. The file tree may change even if the start fails. -/
def launch (s : Settings) (h : Host) (t : FileTree) : Except LaunchError Daemon × FileTree :=
  match prepare s h with
  | .error e => (.error e, t)
  | .ok (d, h') =>
    let (result, t) := openEndpoint h' t d.endpoint
    (result.map fun _ => d, t)

/-! ## 2. The end -/

/-- How a process ends. -/
inductive Exit where
  | code (n : Nat)
  /-- It was killed. -/
  | killed
deriving DecidableEq, Repr

/-- Where a client calls. -/
inductive Dial where
  | socket (path : String)
  | network
deriving DecidableEq, Repr

/-- Whether a client that calls there reaches a daemon. -/
def reached (d : Daemon) (h : Host) (t : FileTree) : Dial → Bool
  | .socket called =>
    match d.endpoint with
    | .unix path => t.sameEntry path called
    | .tcp _ => false
  | .network =>
    match d.endpoint with
    | .unix _ => false
    | .tcp _ => h.connects

/-- How a daemon ends whose client calls there. -/
def ending (d : Daemon) (h : Host) (t : FileTree) (dial : Dial) : Exit :=
  if d.reached h t dial then .code 0 else .killed

/-- The file tree after a daemon has stopped. -/
def stop (d : Daemon) (t : FileTree) : FileTree :=
  match d.endpoint with
  | .unix path =>
    match t.unlink path with
    | .ok t' => t'
    | .error _ => t
  | .tcp _ => t

/-! ## 3. The log -/

/-- The service of a daemon's node, over the tools of the system. -/
def service (d : Daemon) : VolumeService ToolBench := ⟨d.profile, ToolBench.system⟩

/-- The lines written when a daemon starts and stops. -/
def lifeLines : List LogLevel := [.info]

/-- Whether an attempt to run a tool is logged as a failure. -/
def isFault (a : Attempt) : Bool :=
  match a.outcome with
  | .notStarted _ => true
  | .ran r =>
    ! r.succeeded &&
      ! (a.command.program == "blkid" && r.ending == .exited ToolBench.blankExit)

/-- The lines of a call that mounts or unmounts, with the attempts made in it. -/
def callLines (r : Call) (outcome : Except Status Unit) (attempts : List Attempt) :
    List LogLevel :=
  [.info] ++ (if r.needsLock then [.debug] else []) ++
    (attempts.filter isFault).map (fun _ => .error) ++
    match outcome with
    | .ok _ => []
    | .error _ => [.warn]

/-- The lines of a question about the node. -/
def infoLines : List LogLevel := [.info]

/-- The lines of a question about a volume, or of a probe. -/
def probeLines : List LogLevel := [.debug]

/-- The levels that a daemon's log shows after some lines. -/
def logged (d : Daemon) (lines : List LogLevel) : List LogLevel :=
  d.threshold.written (lifeLines ++ lines)

end Daemon

end VolumeNode
