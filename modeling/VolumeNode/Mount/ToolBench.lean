import VolumeNode.Metrics
import VolumeNode.Mount.System
import VolumeNode.Mount.TableReader
import VolumeNode.Text.Blank

/-!
# Mounting with the machine's tools

A mount system that runs `mount`, `umount`, `blkid` and the `mkfs` tools and reads the mount table
of the machine.

* A `Command` is a program with its arguments. An attempt to run one ends in an `Outcome`: it could
  not be started, or it ran and left its output (`ToolRun`).
* A `ToolBench` is the machine seen from here: which tools there are, what they will answer, the
  text of the mount table, and all attempts made so far. `attempt` makes one attempt.
* `run` demands success and counts the attempt; `probe` asks `blkid`, which is not counted.
* `bindTo` sets flags by a remount, and undoes the bind if the remount fails, so a bind never
  stays without its flags unnoticed.
-/

namespace VolumeNode

/-! ## 1. Commands and what they answer -/

/-- A program with its arguments. -/
structure Command where
  program : String
  arguments : List String
deriving DecidableEq, Repr

/-- How a program that ran came to its end. -/
inductive Ending where
  | exited (code : UInt8)
  | killed
deriving DecidableEq, Repr

/-- What a program that ran left behind. -/
structure ToolRun where
  ending : Ending
  output : List UInt8
  errors : List UInt8
deriving DecidableEq, Repr

/-- Whether a run was a success. -/
def ToolRun.succeeded (r : ToolRun) : Bool :=
  r.ending == .exited 0

/-- The text that a failed run left, without blanks around it. -/
def ToolRun.errorText (r : ToolRun) : String :=
  String.ofList (Text.trim (Text.decodeLossy r.errors))

/-- A run without output that succeeds. -/
def ToolRun.silent : ToolRun := ⟨.exited 0, [], []⟩

/-- How an attempt to run a command ends. -/
inductive Outcome where
  | notStarted (e : SystemError)
  | ran (r : ToolRun)
deriving DecidableEq, Repr

/-- Whether an attempt ended in a success. -/
def Outcome.succeeded : Outcome → Bool
  | notStarted _ => false
  | ran r => r.succeeded

/-- Whether the command was started. -/
def Outcome.started : Outcome → Bool
  | notStarted _ => false
  | ran _ => true

/-- One attempt to run a command. -/
structure Attempt where
  command : Command
  outcome : Outcome
deriving DecidableEq, Repr

/-- Reads the text of a mount table for a mount system. -/
def MountTable.read (content : String) : Except MountFailure (List MountEntry) :=
  (readTable content).mapError fun e => .unreadable e.message

/-! ## 2. The bench -/

/-- The tools of a machine. -/
structure ToolBench where
  /-- The programs that can be started. -/
  installed : List String
  /-- For each program, how the next attempts to run it end; beyond them it succeeds silently. -/
  script : List (String × List Outcome)
  /-- The text of the mount table. -/
  table : String
  /-- All attempts, oldest first. -/
  attempts : List Attempt
  /-- The runs counted. -/
  metrics : Metrics
deriving DecidableEq, Repr

namespace ToolBench

/-- The tools that are looked for. -/
def allTools : List String :=
  ["mount", "umount", "blkid", "mkfs.ext4", "mkfs.ext3", "mkfs.xfs"]

/-- A bench with every tool and a mount table, on which nothing was run. -/
def fresh (table : String) : ToolBench := ⟨allTools, [], table, [], []⟩

/-- Takes the next outcome of a program off its script. -/
def takeOutcome (program : String) : List (String × List Outcome) →
    Outcome × List (String × List Outcome)
  | [] => (.ran .silent, [])
  | (p, outcomes) :: rest =>
    if p = program then
      match outcomes with
      | [] => (.ran .silent, (p, []) :: rest)
      | outcome :: outcomes => (outcome, (p, outcomes) :: rest)
    else
      let (outcome, rest') := takeOutcome program rest
      (outcome, (p, outcomes) :: rest')

/-- The length that one argument must stay below. -/
def argumentLimit : Nat := 131072

/-- Why a program is not found, if so. A program with a slash in its name is a path in the working
    directory, which is empty. -/
def searchError (b : ToolBench) (program : String) : Option SystemError :=
  let bytes := Text.bytesOf program
  let first := bytes.takeWhile (· != Location.slash)
  if first.length > FileTree.longestName || bytes.length ≥ FileTree.pathLimit then
    some .nameTooLong
  else if ! b.installed.contains program then some .noEntry
  else none

/-- Why a command cannot be started, if so. -/
def startError (b : ToolBench) (c : Command) : Option SystemError :=
  if (c.program :: c.arguments).any (·.toList.contains '\x00') then some .nulInArgument
  else
    match b.searchError c.program with
    | some e => some e
    | none =>
      if c.arguments.any fun a => (Text.bytesOf a).length ≥ argumentLimit then some .argumentTooLong
      else none

/-- Makes one attempt to run a command. -/
def attempt (b : ToolBench) (c : Command) : Outcome × ToolBench :=
  match b.startError c with
  | some e =>
    (.notStarted e, { b with attempts := b.attempts ++ [⟨c, .notStarted e⟩] })
  | none =>
    let (outcome, script) := takeOutcome c.program b.script
    (outcome, { b with script, attempts := b.attempts ++ [⟨c, outcome⟩] })

/-- Counts an attempt to run a program. -/
def count (b : ToolBench) (program : String) (success : Bool) : ToolBench :=
  { b with metrics := b.metrics.countRun program success }

/-- What an attempt means to a caller who needs its success. -/
def demand (program : String) : Outcome → Except MountFailure Unit
  | .notStarted e => .error (.system e)
  | .ran r => if r.succeeded then .ok () else .error (.toolFailed program r.errorText)

/-- Runs a command that has to succeed. -/
def run (b : ToolBench) (program : String) (arguments : List String) :
    Except MountFailure Unit × ToolBench :=
  let (outcome, b) := b.attempt ⟨program, arguments⟩
  (demand program outcome, b.count program outcome.succeeded)

/-! ## 3. The requests -/

/-- The exit code with which `blkid` reports that it found nothing. -/
def blankExit : UInt8 := 2

/-- What a report of `blkid` names a filesystem with. -/
def typeMark : List Char := ['T', 'Y', 'P', 'E', '=']

/-- Whether a text has a part. -/
def hasPart (part : List Char) : List Char → Bool
  | [] => part.isEmpty
  | c :: text => part.isPrefixOf (c :: text) || hasPart part text

/-- Whether a device is to be formatted, after `blkid` was asked. -/
def readProbe : Outcome → Except MountFailure Bool
  | .notStarted e => .error (.system e)
  | .ran r =>
    if r.ending = .exited blankExit then .ok true
    else if r.succeeded then .ok (! hasPart typeMark (Text.decodeLossy r.output))
    else .error (.toolFailed "blkid" r.errorText)

/-- Asks whether a device carries no filesystem. -/
def probe (b : ToolBench) (device : String) : Except MountFailure Bool × ToolBench :=
  let (outcome, b) := b.attempt ⟨"blkid", ["-p", device]⟩
  (readProbe outcome, b)

/-- Makes a filesystem. -/
def makeFilesystem (b : ToolBench) (device fsType : String) :
    Except MountFailure Unit × ToolBench :=
  b.run ("mkfs." ++ fsType) [if fsType = "xfs" then "-f" else "-F", device]

/-- The arguments that mount a device. -/
def mountArguments (source target fsType : String) (flags : List String) : List String :=
  let options := String.intercalate "," flags
  ["-t", fsType] ++ (if options.isEmpty then [] else ["-o", options]) ++ [source, target]

/-- Mounts a device. -/
def mount (b : ToolBench) (source target fsType : String) (flags : List String) :
    Except MountFailure Unit × ToolBench :=
  b.run "mount" (mountArguments source target fsType flags)

/-- Mounts a device, after making a filesystem if it has none. -/
def mountFormatted (b : ToolBench) (source target fsType : String) (flags : List String) :
    Except MountFailure Unit × ToolBench :=
  match b.probe source with
  | (.error e, b) => (.error e, b)
  | (.ok false, b) => b.mount source target fsType flags
  | (.ok true, b) =>
    match b.makeFilesystem source fsType with
    | (.error e, b) => (.error e, b)
    | (.ok (), b) => b.mount source target fsType flags

/-- Binds a directory to another one. A bind starts without flags; they are set by a remount, and
    if that fails the bind is taken back. -/
def bindTo (b : ToolBench) (source target : String) (flags : List String) :
    Except MountFailure Unit × ToolBench :=
  match b.run "mount" ["--bind", source, target] with
  | (.error e, b) => (.error e, b)
  | (.ok (), b) =>
    if flags = [] then (.ok (), b)
    else
      match b.run "mount" ["-o", "remount,bind," ++ String.intercalate "," flags, target] with
      | (.ok (), b) => (.ok (), b)
      | (.error e, b) => (.error e, (b.run "umount" [target]).2)

/-- Unmounts a directory. -/
def unmount (b : ToolBench) (target : String) : Except MountFailure Unit × ToolBench :=
  b.run "umount" [target]

/-- Where the machine shows the mount table. -/
def tablePath : String := "/proc/self/mountinfo"

/-- Reads the mount table. -/
def readTable (b : ToolBench) : Except MountFailure (List MountEntry) :=
  MountTable.read b.table

/-- The bench as a mount system. -/
def system : MountSystem ToolBench where
  entries _ b := (b.readTable, b)
  mount source target fsType flags _ b := b.mount source target fsType flags
  mountFormatted source target fsType flags _ b := b.mountFormatted source target fsType flags
  bindTo source target flags _ b := b.bindTo source target flags
  unmount target _ b := b.unmount target

/-! ## 4. Attempts add up -/

/-- The commands that were started, oldest first. -/
def started (b : ToolBench) : List Command :=
  (b.attempts.filter (·.outcome.started)).map (·.command)

@[simp] theorem attempts_count (b : ToolBench) (program : String) (success : Bool) :
    (b.count program success).attempts = b.attempts := rfl

@[simp] theorem metrics_attempt (b : ToolBench) (c : Command) :
    (b.attempt c).2.metrics = b.metrics := by
  unfold attempt
  split <;> rfl

/-- An attempt adds itself to the list. -/
theorem attempts_attempt (b : ToolBench) (c : Command) :
    (b.attempt c).2.attempts = b.attempts ++ [⟨c, (b.attempt c).1⟩] := by
  unfold attempt
  split <;> rfl

/-- Running a command adds one attempt and one count. -/
theorem attempts_run (b : ToolBench) (program : String) (arguments : List String) :
    (b.run program arguments).2.attempts =
      b.attempts ++ [⟨⟨program, arguments⟩, (b.attempt ⟨program, arguments⟩).1⟩] := by
  simp [run, attempts_attempt]

theorem metrics_run (b : ToolBench) (program : String) (arguments : List String) :
    (b.run program arguments).2.metrics =
      b.metrics.countRun program (b.attempt ⟨program, arguments⟩).1.succeeded := by
  simp [run, count]

end ToolBench

end VolumeNode
