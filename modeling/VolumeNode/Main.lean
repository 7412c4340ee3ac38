import VolumeNode.Daemon.Launch

/-!
# Command line

Reads arguments and environment, prepares the daemon, and says what it serves or why it does not.
The transport of calls is not part of the library: the daemon serves none and ends with its input.
-/

open VolumeNode

/-- The variables that stand in for options, with their values. -/
def readEnvironment : IO (List (String × String)) := do
  let keys := OptionName.all.filterMap OptionName.environmentKey?
  let values ← keys.mapM fun key => do
    return (← IO.getEnv key).map fun value => (key, value)
  return values.filterMap id

/-- The name of the machine. -/
def readHostName : IO String := do
  let text ← try IO.FS.readFile "/etc/hostname" catch _ => pure ""
  return String.ofList (Text.trim text.toList)

/-- Waits until the input ends. -/
partial def drain (input : IO.FS.Stream) : IO Unit := do
  unless (← input.getLine).isEmpty do drain input

/-- Runs the daemon with its arguments. -/
def main (arguments : List String) : IO UInt32 := do
  match Settings.read arguments (← readEnvironment) with
  | .error stop =>
    IO.eprintln usage
    return UInt32.ofNat stop.exitCode
  | .ok settings =>
    match Daemon.prepare settings ⟨← readHostName, [], false⟩ with
    | .error e =>
      IO.eprintln ("Error: " ++ e.report)
      return UInt32.ofNat LaunchError.exitCode
    | .ok (d, _) =>
      if d.threshold.admits .info then
        IO.println ("INFO Starting CSI node plugin " ++ d.identity.driverName ++ " at " ++
          d.endpoint.text)
      drain (← IO.getStdin)
      return 0
