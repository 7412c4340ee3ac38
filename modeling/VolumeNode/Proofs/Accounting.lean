import VolumeNode.Proofs.Call.Actions
import VolumeNode.Proofs.Commands
import VolumeNode.Proofs.Tally

/-!
# What the metrics account for

Every call and every run of a tool is on the metrics page, once, and nothing else is.

* `Serving` are the courses of a service: its calls, which the log keeps with their answers,
  questions and requests besides the calls, and whatever others do.
* `OperationsAccounted` compares the counts of operations with the log. Over every mount system they
  agree (`Serving.metrics_eq`, `operationsAccounted_pageOf`).
* `RunsAccounted` compares the counts of tool runs with the attempts. Each request to the tools
  counts the attempts that it makes, but for those of `blkid` (`Counted.perform`).
* **`metrics_account`**: in every course both agree, on one page.
-/

namespace VolumeNode

/-! ## 1. Calls -/

/-- The four calls that mount or unmount. -/
inductive CallKind where
  | stage
  | unstage
  | publish
  | unpublish
deriving DecidableEq, Repr

/-- The name of a kind of calls on the metrics page. -/
def CallKind.operation : CallKind → String
  | stage => "node_stage_volume"
  | unstage => "node_unstage_volume"
  | publish => "node_publish_volume"
  | unpublish => "node_unpublish_volume"

/-- The kind of a call. -/
def Call.kind : Call → CallKind
  | stage _ => .stage
  | unstage _ => .unstage
  | publish _ => .publish
  | unpublish _ => .unpublish

theorem Call.operation_eq (r : Call) : r.operation = r.kind.operation := by
  cases r <;> rfl

theorem CallKind.operation_inj {k l : CallKind} (h : k.operation = l.operation) : k = l := by
  cases k <;> cases l <;> first | rfl | simp [operation] at h

/-- The code of an answer. A success has none. -/
def answerCode : Except Status Unit → Option StatusCode
  | .ok _ => none
  | .error status => some status.code

/-- No two ends of a call are counted alike. -/
theorem Metrics.outcomeStatus_inj {c d : Option StatusCode}
    (h : outcomeStatus c = outcomeStatus d) : c = d := by
  cases c with
  | none =>
    cases d with
    | none => rfl
    | some d => cases d <;> simp [outcomeStatus, Series.successStatus, StatusCode.label] at h
  | some c =>
    cases d with
    | none => cases c <;> simp [outcomeStatus, Series.successStatus, StatusCode.label] at h
    | some d => exact congrArg some (StatusCode.label_inj h)

/-- The series that a call with its answer is counted in. -/
def countedCall (e : Call × Except Status Unit) : List Series :=
  [.operations e.1.kind.operation (Metrics.outcomeStatus (answerCode e.2)),
    .durations e.1.kind.operation]

namespace VolumeService

variable {σ : Type}

/-- A call is counted by its kind and its answer. -/
theorem metrics_call (s : VolumeService σ) (r : Call) (st : ServiceState σ) :
    (s.call r st).2.metrics = (countedCall (r, (s.call r st).1)).foldl Metrics.bump st.metrics := by
  unfold call countedCall Metrics.countCall
  rw [r.operation_eq]
  dsimp only
  cases (r.run s.system s.profile.naming st.world).1 <;> rfl

/-- The courses of a service, with the log of its calls and their answers. `outside` tells what
    others may do to the world. -/
inductive Serving (s : VolumeService σ) (outside : World σ → World σ → Prop)
    (start : ServiceState σ) : List (Call × Except Status Unit) → ServiceState σ → Prop
  | start : Serving s outside start [] start
  | call {log : List (Call × Except Status Unit)} {st : ServiceState σ}
      (h : Serving s outside start log st) (r : Call) :
      Serving s outside start (log ++ [(r, (s.call r st).1)]) (s.call r st).2
  /-- A question or a request besides the calls, or several of them in a row. -/
  | ask {log : List (Call × Except Status Unit)} {st : ServiceState σ} {α : Type}
      (h : Serving s outside start log st) (question : Handler α) :
      Serving s outside start log (s.ask question st).2
  | outside {log : List (Call × Except Status Unit)} {st : ServiceState σ}
      (h : Serving s outside start log st) (world : World σ) (may : outside st.world world) :
      Serving s outside start log { st with world }

variable {s : VolumeService σ} {outside : World σ → World σ → Prop} {start st : ServiceState σ}
  {log : List (Call × Except Status Unit)}

/-- **The counts of a service are those of the calls made.** -/
theorem Serving.metrics_eq (h : Serving s outside start log st) (hstart : start.metrics = []) :
    st.metrics = Metrics.tally (log.flatMap countedCall) := by
  induction h with
  | start => exact hstart
  | call _ r ih =>
    rw [metrics_call, ih, List.flatMap_append, List.flatMap_singleton, Metrics.tally_append]
  | ask _ question ih => exact ih
  | outside _ world may ih => exact ih

/-- What every action and everything from outside keeps holds all the time. -/
theorem Serving.keeps {P : World σ → Prop} (h : Serving s outside start log st)
    (hstart : P start.world)
    (hact : ∀ (a : Action) (w : World σ), P w → P (a.perform s.system w).2)
    (houtside : ∀ w w', outside w w' → P w → P w') : P st.world := by
  induction h with
  | start => exact hstart
  | @call log st _ r ih => exact (r.procedure s.profile.naming).keeps_run hact ih
  | @ask log st α _ question ih => exact question.run.keeps_run hact ih
  | outside _ world may ih => exact houtside _ _ may ih

end VolumeService

/-! ## 2. Tools -/

/-- The series that an attempt is counted in. Attempts to run `blkid` are not counted. -/
def countedRun (a : Attempt) : List Series :=
  if a.command.program = "blkid" then [] else [.toolRuns a.command.program a.outcome.succeeded]

namespace ToolBench

/-- The counts of a bench are those of the attempts made. -/
def Counted (b : ToolBench) : Prop :=
  b.metrics = Metrics.tally (b.attempts.flatMap countedRun)

theorem Counted.run {b : ToolBench} (h : Counted b) {program : String} (hne : program ≠ "blkid")
    (arguments : List String) : Counted (b.run program arguments).2 := by
  have hrun : countedRun ⟨⟨program, arguments⟩, (b.attempt ⟨program, arguments⟩).1⟩ =
      [.toolRuns program (b.attempt ⟨program, arguments⟩).1.succeeded] := if_neg hne
  unfold Counted at h ⊢
  rw [metrics_run, attempts_run, h, List.flatMap_append, List.flatMap_singleton, hrun,
    Metrics.tally_concat]
  rfl

/-- The one run that is not counted. -/
theorem Counted.probe {b : ToolBench} (h : Counted b) (device : String) :
    Counted (b.probe device).2 := by
  have hattempts : (b.probe device).2.attempts = _ := attempts_attempt b ⟨"blkid", ["-p", device]⟩
  have hmetrics : (b.probe device).2.metrics = b.metrics := metrics_attempt b _
  have hnone : countedRun
      ⟨⟨"blkid", ["-p", device]⟩, (b.attempt ⟨"blkid", ["-p", device]⟩).1⟩ = [] := if_pos rfl
  unfold Counted at h ⊢
  rw [hmetrics, hattempts, h, List.flatMap_append, List.flatMap_singleton, hnone, List.append_nil]

theorem makeFilesystem_ne (fsType : String) : "mkfs." ++ fsType ≠ "blkid" := by
  intro h
  have hlist := congrArg String.toList h
  simp at hlist

theorem Counted.mountFormatted {b : ToolBench} (h : Counted b) (source target fsType : String)
    (flags : List String) : Counted (b.mountFormatted source target fsType flags).2 := by
  have hprobe := h.probe source
  unfold ToolBench.mountFormatted
  generalize b.probe source = x at hprobe ⊢
  obtain ⟨answer, b₁⟩ := x
  cases answer with
  | error e => exact hprobe
  | ok blank =>
    cases blank with
    | false => exact hprobe.run (by decide) _
    | true =>
      have hmake : Counted (b₁.makeFilesystem source fsType).2 :=
        hprobe.run (makeFilesystem_ne fsType) _
      dsimp only
      generalize b₁.makeFilesystem source fsType = y at hmake ⊢
      obtain ⟨made, b₂⟩ := y
      cases made with
      | error e => exact hmake
      | ok u => exact hmake.run (by decide) _

/-- A bind is counted with its remount and with the unmount that takes it back. -/
theorem Counted.bindTo {b : ToolBench} (h : Counted b) (source target : String)
    (flags : List String) : Counted (b.bindTo source target flags).2 := by
  have hbind : Counted (b.run "mount" ["--bind", source, target]).2 := h.run (by decide) _
  unfold ToolBench.bindTo
  generalize b.run "mount" ["--bind", source, target] = x at hbind ⊢
  obtain ⟨bound, b₁⟩ := x
  cases bound with
  | error e => exact hbind
  | ok u =>
    dsimp only
    split
    · exact hbind
    · have hremount : Counted
          (b₁.run "mount" ["-o", "remount,bind," ++ String.intercalate "," flags, target]).2 :=
        hbind.run (by decide) _
      generalize b₁.run "mount" ["-o", "remount,bind," ++ String.intercalate "," flags, target] = y
        at hremount ⊢
      obtain ⟨remounted, b₂⟩ := y
      cases remounted with
      | ok u => exact hremount
      | error e => exact hremount.run (by decide) _

/-- **Every action counts the attempts that it makes.** -/
theorem Counted.perform {w : World ToolBench} (h : Counted w.mounts) (a : Action) :
    Counted (a.perform system w).2.mounts := by
  cases a with
  | findDevice | stat | lstat | makeDirectory | removeDirectory | entries =>
    rw [Action.mounts_perform (fun _ _ => rfl) w rfl]
    exact h
  | mount source target fsType flags => exact h.run (by decide) _
  | mountFormatted source target fsType flags => exact h.mountFormatted source target fsType flags
  | bindTo source target flags => exact h.bindTo source target flags
  | unmount target => exact h.run (by decide) _

end ToolBench

/-! ## 3. Reading the page -/

/-- Whether a series counts how an operation ended. -/
def Series.endsOf (operation : String) : Series → Bool
  | .operations counted _ => counted == operation
  | _ => false

/-- The page shows the calls of a log, each with its answer. -/
structure OperationsAccounted (log : List (Call × Except Status Unit)) (page : Metrics) : Prop where
  /-- All ends of an operation together. -/
  operations : ∀ kind : CallKind,
    page.total (Series.endsOf kind.operation) = log.countP fun e => e.1.kind == kind
  durations : ∀ kind : CallKind,
    page.count (.durations kind.operation) = log.countP fun e => e.1.kind == kind
  successes : ∀ kind : CallKind, page.count (.operations kind.operation "success") =
    log.countP fun e => e.1.kind == kind && answerCode e.2 == none
  failures : ∀ (kind : CallKind) (code : StatusCode),
    page.count (.operations kind.operation code.label) =
      log.countP fun e => e.1.kind == kind && answerCode e.2 == some code

/-- The page shows the attempts to run a program, but for `blkid`. An attempt is a success if the
    program ran and exited with zero. -/
structure RunsAccounted (attempts : List Attempt) (page : Metrics) : Prop where
  successes : ∀ program, program ≠ "blkid" → page.count (.toolRuns program true) =
    attempts.countP fun a => a.command.program == program && a.outcome.succeeded
  failures : ∀ program, program ≠ "blkid" → page.count (.toolRuns program false) =
    attempts.countP fun a => a.command.program == program && ! a.outcome.succeeded
  probes : ∀ success, page.count (.toolRuns "blkid" success) = 0

/-- Where each part of a row has one hit or none, the row has as many hits as parts with one. -/
theorem countP_flatMap_eq {α β : Type} {f : α → List β} {p : β → Bool} {q : α → Bool}
    (h : ∀ a, (f a).countP p = if q a then 1 else 0) (row : List α) :
    (row.flatMap f).countP p = row.countP q := by
  induction row with
  | nil => rfl
  | cons a row ih =>
    rw [List.flatMap_cons, List.countP_append, List.countP_cons, h, ih]
    exact Nat.add_comm _ _

theorem countP_countedCall_endsOf (kind : CallKind) (e : Call × Except Status Unit) :
    (countedCall e).countP (Series.endsOf kind.operation) = if e.1.kind == kind then 1 else 0 := by
  by_cases h : e.1.kind = kind
  · simp [countedCall, Series.endsOf, h]
  · have hne : e.1.kind.operation ≠ kind.operation := fun hop => h (CallKind.operation_inj hop)
    simp [countedCall, Series.endsOf, h, hne]

theorem count_countedCall_durations (kind : CallKind) (e : Call × Except Status Unit) :
    (countedCall e).count (.durations kind.operation) = if e.1.kind == kind then 1 else 0 := by
  by_cases h : e.1.kind = kind
  · simp [countedCall, h]
  · have hne : e.1.kind.operation ≠ kind.operation := fun hop => h (CallKind.operation_inj hop)
    simp [countedCall, h, hne]

theorem count_countedCall_operations (kind : CallKind) (c : Option StatusCode)
    (e : Call × Except Status Unit) :
    (countedCall e).count (.operations kind.operation (Metrics.outcomeStatus c)) =
      if e.1.kind == kind && answerCode e.2 == c then 1 else 0 := by
  by_cases h : e.1.kind = kind
  · by_cases hc : answerCode e.2 = c
    · simp [countedCall, h, hc]
    · have hne : Metrics.outcomeStatus (answerCode e.2) ≠ Metrics.outcomeStatus c :=
        fun hstatus => hc (Metrics.outcomeStatus_inj hstatus)
      simp [countedCall, h, hc, hne]
  · have hne : e.1.kind.operation ≠ kind.operation := fun hop => h (CallKind.operation_inj hop)
    simp [countedCall, h, hne]

theorem count_countedRun {program : String} (h : program ≠ "blkid") (success : Bool) (a : Attempt) :
    (countedRun a).count (.toolRuns program success) =
      if a.command.program == program && a.outcome.succeeded == success then 1 else 0 := by
  unfold countedRun
  by_cases hprobe : a.command.program = "blkid"
  · have hne : a.command.program ≠ program := fun hsame => h (hsame ▸ hprobe)
    simp [hprobe, Ne.symm h]
  · rw [if_neg hprobe, List.count_singleton]
    by_cases hprogram : a.command.program = program <;>
      cases a.outcome.succeeded <;> cases success <;> simp [hprogram]

/-- Tool runs are in the row of the attempts only. -/
theorem eq_toolRuns_of_countedRun {attempts : List Attempt} {s : Series}
    (h : s ∈ attempts.flatMap countedRun) :
    ∃ program success, s = .toolRuns program success ∧ program ≠ "blkid" := by
  obtain ⟨a, _, ha⟩ := List.mem_flatMap.1 h
  unfold countedRun at ha
  split at ha
  · cases ha
  · exact ⟨_, _, List.mem_singleton.1 ha, ‹_›⟩

theorem not_toolRuns_of_countedCall {log : List (Call × Except Status Unit)} {program : String}
    {success : Bool} : Series.toolRuns program success ∉ log.flatMap countedCall := by
  intro h
  obtain ⟨e, _, he⟩ := List.mem_flatMap.1 h
  simp [countedCall] at he

/-- The page that shows a log of calls and a row of attempts. -/
def pageOf (log : List (Call × Except Status Unit)) (attempts : List Attempt) : Metrics :=
  Metrics.tally (log.flatMap countedCall) ++ Metrics.tally (attempts.flatMap countedRun)

theorem operationsAccounted_pageOf (log : List (Call × Except Status Unit))
    (attempts : List Attempt) : OperationsAccounted log (pageOf log attempts) := by
  -- the attempts add nothing to a count of operations
  have hcount : ∀ {s : Series}, (∀ program success, s ≠ .toolRuns program success) →
      (pageOf log attempts).count s = (log.flatMap countedCall).count s := by
    intro s hs
    have hnot : s ∉ attempts.flatMap countedRun := by
      intro hmem
      obtain ⟨program, success, heq, _⟩ := eq_toolRuns_of_countedRun hmem
      exact hs program success heq
    unfold pageOf
    rw [Metrics.count_tally_append (.inr hnot), List.count_eq_zero_of_not_mem hnot, Nat.add_zero]
  have hends : ∀ kind c, (pageOf log attempts).count
      (.operations kind.operation (Metrics.outcomeStatus c)) =
        log.countP fun e => e.1.kind == kind && answerCode e.2 == c := by
    intro kind c
    rw [hcount (fun _ _ => Series.noConfusion)]
    exact countP_flatMap_eq (count_countedCall_operations kind c) log
  constructor
  · intro kind
    have hnone : (attempts.flatMap countedRun).countP (Series.endsOf kind.operation) = 0 := by
      rw [List.countP_eq_zero]
      intro s hs
      obtain ⟨program, success, rfl, _⟩ := eq_toolRuns_of_countedRun hs
      exact Bool.false_ne_true
    unfold pageOf
    rw [Metrics.total_append, Metrics.total_tally, Metrics.total_tally, hnone]
    exact countP_flatMap_eq (countP_countedCall_endsOf kind) log
  · intro kind
    rw [hcount (fun _ _ => Series.noConfusion)]
    exact countP_flatMap_eq (count_countedCall_durations kind) log
  · exact fun kind => hends kind none
  · exact fun kind code => hends kind (some code)

theorem runsAccounted_pageOf (log : List (Call × Except Status Unit)) (attempts : List Attempt) :
    RunsAccounted attempts (pageOf log attempts) := by
  have hcount : ∀ program success, (pageOf log attempts).count (.toolRuns program success) =
      (attempts.flatMap countedRun).count (.toolRuns program success) := by
    intro program success
    have hnot : Series.toolRuns program success ∉ log.flatMap countedCall :=
      not_toolRuns_of_countedCall
    unfold pageOf
    rw [Metrics.count_tally_append (.inl hnot), List.count_eq_zero_of_not_mem hnot, Nat.zero_add]
  have hruns : ∀ program, program ≠ "blkid" → ∀ success,
      (pageOf log attempts).count (.toolRuns program success) =
        attempts.countP fun a =>
          a.command.program == program && a.outcome.succeeded == success := by
    intro program hne success
    rw [hcount]
    exact countP_flatMap_eq (count_countedRun hne success) attempts
  constructor
  · intro program hne
    simpa using hruns program hne true
  · intro program hne
    simpa using hruns program hne false
  · intro success
    rw [hcount]
    refine List.count_eq_zero_of_not_mem fun hmem => ?_
    obtain ⟨program, _, heq, hne⟩ := eq_toolRuns_of_countedRun hmem
    cases heq
    exact hne rfl

/-! ## 4. Courses -/

/-- The metrics page of a service over the tools. -/
def ServiceState.page (st : ServiceState ToolBench) : Metrics :=
  st.metrics ++ st.world.mounts.metrics

/-- What others may do to a machine with tools: anything but to the attempts and the counts. -/
def ToolBench.KeepsRecord (w w' : World ToolBench) : Prop :=
  w'.mounts.attempts = w.mounts.attempts ∧ w'.mounts.metrics = w.mounts.metrics

namespace VolumeService

/-- **The metrics account for every call and for every run of a tool.** Over any mount system the
    calls are counted as they were answered. Over the tools the page shows the calls and the
    attempts side by side, and nothing else adds to it. -/
theorem metrics_account :
    (∀ (σ : Type) (s : VolumeService σ) (outside : World σ → World σ → Prop) (w : World σ)
        (log : List (Call × Except Status Unit)) (st : ServiceState σ),
        Serving s outside ⟨w, []⟩ log st → OperationsAccounted log st.metrics) ∧
      ∀ (profile : NodeProfile) (w : World ToolBench) (log : List (Call × Except Status Unit))
        (st : ServiceState ToolBench), w.mounts.attempts = [] → w.mounts.metrics = [] →
        Serving ⟨profile, ToolBench.system⟩ ToolBench.KeepsRecord ⟨w, []⟩ log st →
        OperationsAccounted log st.page ∧ RunsAccounted st.world.mounts.attempts st.page := by
  constructor
  · intro σ s outside w log st h
    have hpage := operationsAccounted_pageOf log []
    rw [h.metrics_eq rfl]
    rwa [pageOf, List.flatMap_nil, show Metrics.tally [] = [] from rfl, List.append_nil] at hpage
  · intro profile w log st hattempts hmetrics h
    have hcounted : st.world.mounts.Counted := by
      refine h.keeps (P := fun w => w.mounts.Counted) ?_ (fun a w hw => hw.perform a) ?_
      · show w.mounts.metrics = Metrics.tally (w.mounts.attempts.flatMap countedRun)
        rw [hattempts, hmetrics]
        rfl
      · intro w w' hkeeps hw
        obtain ⟨hattempts, hmetrics⟩ := hkeeps
        unfold ToolBench.Counted at hw ⊢
        rw [hattempts, hmetrics, hw]
    have hpage : st.page = pageOf log st.world.mounts.attempts := by
      unfold ServiceState.page pageOf
      rw [h.metrics_eq rfl, hcounted]
    rw [hpage]
    exact ⟨operationsAccounted_pageOf _ _, runsAccounted_pageOf _ _⟩

/-- The service of the small machine, over some mount system. -/
def small {σ : Type} (system : MountSystem σ) : VolumeService σ :=
  ⟨⟨"node", 59, smallNaming⟩, system⟩

/-- The small machine with all tools. The next mount is killed. -/
def killedMount : World ToolBench :=
  { toolWorld with mounts :=
      { toolWorld.mounts with script := [("mount", [.ran ⟨.killed, [], []⟩])] } }

/-- A volume is staged for writing there. -/
def killedStage : Call := .stage ⟨"a", "/s", writer []⟩

/-- What the service knows then. -/
def killedState : ServiceState ToolBench :=
  ((small ToolBench.system).call killedStage ⟨killedMount, []⟩).2

/-- The question to `blkid` is not on the page, the new filesystem and the killed mount are. -/
theorem metrics_account_killedMount :
    OperationsAccounted
        [(killedStage, ((small ToolBench.system).call killedStage ⟨killedMount, []⟩).1)]
        killedState.page ∧
      RunsAccounted killedState.world.mounts.attempts killedState.page ∧
      killedState.world.mounts.attempts.map (·.command.program) = ["blkid", "mkfs.ext4", "mount"] ∧
      killedState.page =
        [(.operations "node_stage_volume" "internal", 1), (.durations "node_stage_volume", 1),
          (.toolRuns "mkfs.ext4" true, 1), (.toolRuns "mount" false, 1)] ∧
      OperationsAccounted
        [(killedStage, ((small MemoryTable.system).call killedStage ⟨smallWorld, []⟩).1)]
        ((small MemoryTable.system).call killedStage ⟨smallWorld, []⟩).2.metrics := by
  have htools := metrics_account.2 ⟨"node", 59, smallNaming⟩ killedMount _ killedState rfl rfl
    (.call .start killedStage)
  have hmemory := metrics_account.1 _ (small MemoryTable.system) (fun _ _ => False) smallWorld _ _
    (.call .start killedStage)
  exact ⟨htools.1, htools.2, by decide +kernel, by decide +kernel, hmemory⟩

end VolumeService

end VolumeNode
