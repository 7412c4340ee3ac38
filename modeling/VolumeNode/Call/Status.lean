/-!
# Status of a call

How a call ends that fails: a code out of the call protocol, and a text.
-/

namespace VolumeNode

/-- The codes in use. -/
inductive StatusCode where
  | invalidArgument
  | notFound
  | failedPrecondition
  | alreadyExists
  | internal
  | unimplemented
deriving DecidableEq, Repr

namespace StatusCode

/-- The number of a code in the call protocol. -/
def number : StatusCode → Nat
  | invalidArgument => 3
  | notFound => 5
  | alreadyExists => 6
  | failedPrecondition => 9
  | unimplemented => 12
  | internal => 13

/-- The name of a code in metrics. -/
def label : StatusCode → String
  | invalidArgument => "invalid_argument"
  | notFound => "not_found"
  | failedPrecondition => "failed_precondition"
  | alreadyExists => "already_exists"
  | internal => "internal"
  | unimplemented => "unimplemented"

/-- Different codes have different numbers. -/
theorem number_inj {c d : StatusCode} (h : c.number = d.number) : c = d := by
  cases c <;> cases d <;> first | rfl | simp [number] at h

/-- Different codes have different names. -/
theorem label_inj {c d : StatusCode} (h : c.label = d.label) : c = d := by
  cases c <;> cases d <;> first | rfl | simp [label] at h

end StatusCode

/-- A code with its text. -/
structure Status where
  code : StatusCode
  message : String
deriving DecidableEq, Repr

end VolumeNode
