import VolumeNode.Call.Status

/-!
# Metrics

Counts of calls and of tool runs.

* A `Series` is one line of the metrics page: calls of an operation by status, samples of the
  duration of an operation, runs of a tool by success.
* `Metrics` keeps a count for each series seen so far, in the order of their first counts; `bump`
  adds one, `count` reads. `count_bump` is the equation between the two.
* `countCall` counts a call and its duration, `countRun` a tool run.
-/

namespace VolumeNode

/-! ## 1. Series -/

/-- One line of the metrics page. -/
inductive Series where
  /-- How often an operation ended with a status. -/
  | operations (operation status : String)
  /-- How many durations of an operation were taken. -/
  | durations (operation : String)
  /-- How often a tool ran with or without success. -/
  | toolRuns (tool : String) (success : Bool)
deriving DecidableEq, Repr

namespace Series

/-- The status under which an operation that succeeded is counted. -/
def successStatus : String := "success"

/-- The status of a tool run. -/
def runStatus (success : Bool) : String :=
  if success then successStatus else "failure"

/-- The name of a metric. -/
def name : Series → String
  | operations .. => "csi_node_operations_total"
  | durations _ => "csi_node_operation_duration_seconds"
  | toolRuns .. => "csi_node_mount_calls_total"

/-- The labels of a series, in order. -/
def labels : Series → List (String × String)
  | operations operation status => [("operation", operation), ("status", status)]
  | durations operation => [("operation", operation)]
  | toolRuns tool success => [("call", tool), ("status", runStatus success)]

/-- A series as the metrics page names it. -/
def text (s : Series) : String :=
  s.name ++ "\x7b" ++ String.intercalate "," (s.labels.map fun l => l.1 ++ "=" ++ l.2) ++ "\x7d"

end Series

/-! ## 2. Counts -/

/-- The count of each series seen so far. -/
abbrev Metrics := List (Series × Nat)

namespace Metrics

/-- The count of a series; one that was never seen counts as zero. -/
def count (m : Metrics) (s : Series) : Nat :=
  (m.lookup s).getD 0

/-- Adds one to a series. -/
def bump : Metrics → Series → Metrics
  | [], s => [(s, 1)]
  | (r, n) :: m, s => if r = s then (r, n + 1) :: m else (r, n) :: bump m s

@[simp] theorem count_nil (s : Series) : count [] s = 0 := rfl

/-- A count adds one to its own series and nothing to any other. -/
theorem count_bump (m : Metrics) (r s : Series) :
    (bump m r).count s = m.count s + if s = r then 1 else 0 := by
  induction m with
  | nil =>
    by_cases h : s = r
    · subst h; simp [bump, count]
    · simp [bump, count, List.lookup_cons, beq_eq_false_iff_ne.2 h, h]
  | cons p m ih =>
    obtain ⟨q, n⟩ := p
    by_cases hq : q = r
    · subst hq
      by_cases h : s = q
      · subst h; simp [bump, count]
      · simp [bump, count, List.lookup_cons, beq_eq_false_iff_ne.2 h, h]
    · by_cases h : s = q
      · subst h
        simp [bump, hq, count]
      · have e : count (bump ((q, n) :: m) r) s = count (bump m r) s := by
          simp [bump, hq, count, List.lookup_cons, beq_eq_false_iff_ne.2 h]
        have e' : count ((q, n) :: m) s = count m s := by
          simp [count, List.lookup_cons, beq_eq_false_iff_ne.2 h]
        rw [e, e', ih]

/-! ## 3. What is counted -/

/-- Counts a call of an operation that ended with a status, and its duration. -/
def countCall (m : Metrics) (operation status : String) : Metrics :=
  (m.bump (.operations operation status)).bump (.durations operation)

/-- Counts a run of a tool. -/
def countRun (m : Metrics) (tool : String) (success : Bool) : Metrics :=
  m.bump (.toolRuns tool success)

/-- The status under which a call is counted. -/
def outcomeStatus : Option StatusCode → String
  | none => Series.successStatus
  | some code => code.label

end Metrics

end VolumeNode
