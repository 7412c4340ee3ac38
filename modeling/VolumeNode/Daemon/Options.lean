import VolumeNode.Daemon.Identity
import VolumeNode.Service

/-!
# Command line options

Every option takes one value, as the next argument or behind `=`; only the latter may look like an
option. Each is given once at most.

* `OptionName` are the options, with the variables of the environment that stand in for some.
* `readArguments` reads the arguments one by one and stops at the first fault, or at a request for
  help (`Stop`).
* `Settings` is what the daemon is told in the end: the arguments, the environment where an argument
  is missing, and the defaults.
-/

namespace VolumeNode

/-! ## 1. Options -/

/-- The options of the daemon. -/
inductive OptionName where
  | endpoint
  | nodeId
  | driverName
  | maxVolumes
  | deviceDirectory
  | deviceLead
  | logLevel
  | metricsAddress
deriving DecidableEq, Repr

namespace OptionName

/-- The name of an option on the command line, without the dashes in front. -/
def flag : OptionName → String
  | endpoint => "endpoint"
  | nodeId => "node-id"
  | driverName => "driver-name"
  | maxVolumes => "max-volumes-per-node"
  | deviceDirectory => "device-dir"
  | deviceLead => "device-prefix"
  | logLevel => "log-level"
  | metricsAddress => "metrics-addr"

/-- All options. -/
def all : List OptionName :=
  [endpoint, nodeId, driverName, maxVolumes, deviceDirectory, deviceLead, logLevel, metricsAddress]

/-- The option with a name. -/
def ofFlag? (name : String) : Option OptionName :=
  all.find? (·.flag == name)

theorem ofFlag?_flag (o : OptionName) : ofFlag? o.flag = some o := by
  cases o <;> decide

/-- The variable that stands in for an option. -/
def environmentKey? : OptionName → Option String
  | endpoint => some "CSI_ENDPOINT"
  | nodeId => some "CSI_NODE_ID"
  | logLevel => some "LOG_LEVEL"
  | metricsAddress => some "METRICS_ADDR"
  | _ => none

end OptionName

/-- Why the daemon ends before it starts. -/
inductive Stop where
  /-- Help was asked for. -/
  | help
  /-- The arguments cannot be used. -/
  | usage
deriving DecidableEq, Repr

/-- The exit code of a daemon that ends before it starts. -/
def Stop.exitCode : Stop → Nat
  | help => 0
  | usage => 2

/-- How the daemon is called. -/
def usage : String :=
  let line (o : OptionName) : String :=
    "\n  --" ++ o.flag ++ " <VALUE>" ++ ((o.environmentKey?.map fun k => " or " ++ k).getD "")
  "Options, each with one value:" ++ String.join (OptionName.all.map line) ++ "\n  -h, --help"

/-! ## 2. Values -/

/-- Reads an integer of 64 bits, with or without a sign. -/
def readInt64 (text : List Char) : Option Int :=
  let magnitude (digits : List Char) : Option Nat :=
    if ! digits.isEmpty && digits.all (fun c => '0' ≤ c && c ≤ '9') then
      some (digits.foldl (fun n c => n * 10 + (c.toNat - '0'.toNat)) 0)
    else none
  let value : Option Int :=
    match text with
    | '-' :: digits => (magnitude digits).map fun n => -(n : Int)
    | '+' :: digits => (magnitude digits).map fun n => (n : Int)
    | digits => (magnitude digits).map fun n => (n : Int)
  value.filter fun n => -0x8000000000000000 ≤ n ∧ n < 0x8000000000000000

/-- Whether an option takes a value. -/
def OptionName.accepts : OptionName → String → Bool
  | maxVolumes, value => (readInt64 value.toList).isSome
  | deviceDirectory, value => ! value.isEmpty
  | _, _ => true

/-- The options given so far, with their values. -/
abbrev GivenOptions := List (OptionName × String)

namespace GivenOptions

/-- Adds an option with its value. -/
def give (given : GivenOptions) (o : OptionName) (value : String) : Except Stop GivenOptions :=
  if (given.lookup o).isSome || ! o.accepts value then .error .usage
  else .ok (given ++ [(o, value)])

end GivenOptions

/-! ## 3. Arguments -/

/-- How an argument looks. -/
inductive Argument where
  /-- Two dashes alone: only values follow, and no option takes them. -/
  | separator
  /-- Two dashes and a name, perhaps with a value behind `=`. -/
  | long (name : String) (value : Option String)
  /-- One dash and letters. -/
  | short (letters : List Char)
  | value (text : String)
deriving DecidableEq, Repr

/-- Reads how an argument looks. -/
def Argument.ofText (text : String) : Argument :=
  match text.toList with
  | ['-', '-'] => .separator
  | '-' :: '-' :: rest =>
    let name := String.ofList (rest.takeWhile (· != '='))
    match rest.dropWhile (· != '=') with
    | [] => .long name none
    | _ :: v => .long name (some (String.ofList v))
  | '-' :: c :: rest => .short (c :: rest)
  | _ => .value text

/-- Reads arguments, where `waiting` is the option that the next one is the value of. -/
def readArguments (given : GivenOptions) (waiting : Option OptionName) :
    List String → Except Stop GivenOptions
  | [] => if waiting.isSome then .error .usage else .ok given
  | text :: rest =>
    match waiting, Argument.ofText text with
    | some o, .value v =>
      match given.give o v with
      | .ok given => readArguments given none rest
      | .error stop => .error stop
    | some _, _ => .error .usage
    | none, .value _ => .error .usage
    | none, .separator => if rest.isEmpty then .ok given else .error .usage
    | none, .short letters => .error (if letters.head? = some 'h' then .help else .usage)
    | none, .long name value =>
      if name = "help" then .error (if value.isNone then .help else .usage)
      else
        match OptionName.ofFlag? name, value with
        | none, _ => .error .usage
        | some o, none => readArguments given (some o) rest
        | some o, some v =>
          match given.give o v with
          | .ok given => readArguments given none rest
          | .error stop => .error stop

/-! ## 4. Settings -/

/-- What the daemon is told. -/
structure Settings where
  endpoint : String
  nodeId : Option String
  driverName : String
  maxVolumes : Int
  naming : DeviceNaming
  logLevel : String
  metricsAddress : Option String
deriving DecidableEq, Repr

namespace Settings

/-- The endpoint of a daemon that is not told another. -/
def defaultEndpoint : String := "unix:///var/run/csi/csi.sock"

/-- The value of an option: the argument, or else the variable that stands in for it. -/
def value? (given : GivenOptions) (environment : List (String × String)) (o : OptionName) :
    Option String :=
  (given.lookup o).or (o.environmentKey?.bind fun v => environment.lookup v)

/-- Fills the missing options up. -/
def ofGiven (given : GivenOptions) (environment : List (String × String)) : Settings :=
  let value? := value? given environment
  { endpoint := (value? .endpoint).getD defaultEndpoint
    nodeId := value? .nodeId
    driverName := (value? .driverName).getD Identity.defaultName
    maxVolumes :=
      ((value? .maxVolumes).bind fun v => readInt64 v.toList).getD NodeProfile.defaultMaxVolumes
    naming :=
      ⟨((value? .deviceDirectory).map Text.bytesOf).getD DeviceNaming.default.directory,
        (value? .deviceLead).getD DeviceNaming.default.lead⟩
    logLevel := (value? .logLevel).getD "info"
    metricsAddress := value? .metricsAddress }

/-- The settings that arguments and environment give. -/
def read (arguments : List String) (environment : List (String × String)) :
    Except Stop Settings :=
  (readArguments [] none arguments).map (ofGiven · environment)

end Settings

end VolumeNode
