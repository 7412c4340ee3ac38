import VolumeNode.Text.LowerCase

/-!
# Log levels

How much a line of the log matters. A daemon writes the lines whose level is at least its own
threshold (`admits`); `ofText` reads a threshold in any case, where any other word means `info`.
-/

namespace VolumeNode

/-- The level of a line, from the least to the most important one. -/
inductive LogLevel where
  | trace
  | debug
  | info
  | warn
  | error
deriving DecidableEq, Repr

namespace LogLevel

/-- How important a level is. -/
def rank : LogLevel → Nat
  | trace => 0
  | debug => 1
  | info => 2
  | warn => 3
  | error => 4

/-- The name of a level in a line. -/
def text : LogLevel → String
  | trace => "TRACE"
  | debug => "DEBUG"
  | info => "INFO"
  | warn => "WARN"
  | error => "ERROR"

/-- The threshold that a word names. -/
def ofText (word : String) : LogLevel :=
  let lowered := String.ofList (Text.toLower word.toList)
  if lowered = "trace" then trace
  else if lowered = "debug" then debug
  else if lowered = "warn" then warn
  else if lowered = "error" then error
  else info

/-- Whether a line of a level is written under a threshold. -/
def admits (threshold level : LogLevel) : Bool :=
  threshold.rank ≤ level.rank

/-- All levels, by their names. -/
def byName : List LogLevel := [debug, error, info, trace, warn]

/-- The levels among some lines that are written under a threshold, each once, by their names. -/
def written (threshold : LogLevel) (lines : List LogLevel) : List LogLevel :=
  byName.filter fun level => lines.contains level && threshold.admits level

theorem mem_written (threshold level : LogLevel) (lines : List LogLevel) :
    level ∈ threshold.written lines ↔ level ∈ lines ∧ threshold.admits level = true := by
  have : level ∈ byName := by cases level <;> decide
  simp [written, this]

end LogLevel

end VolumeNode
