import VolumeNode.Proofs.Repetition
import VolumeNode.Proofs.Traffic.Ending

/-!
# Calls at the same time, carried out one after another

Calls on one volume arrive while others are under way, wait for its lock, are given up, and take
their steps in any order.

* `Serialised` is what comes of it: the outcomes and the world are those of the finished calls
  carried out one after another, in the order in which they got the lock; and all jobs can still be
  brought to their ends.
* **`serialised_run`**: that is so after any events, in any order. Any number of calls to stage a
  volume that is not mounted mount it once (`StagedOnce`), and format it once at most.
* `crowdedEvents` is a run of three such calls, one of which is given up.

As in staging a volume twice, the directory of links is a text (`TextNaming`).
-/

namespace VolumeNode.Traffic

variable {v : String} {s : Traffic} {h : Handle}

/-- The call of every job is one that arrived. -/
theorem arrive_mem_of_job? (naming : DeviceNaming) (start : MemoryWorld) (events : List Event)
    {j : Job} (hj : ((quiet start).run naming events).job? h = some j) :
    .arrive h j.call ∈ events := by
  induction events using List.reverseRecOn generalizing j with
  | nil =>
    rw [show (quiet start).run naming [] = quiet start from rfl, job?_quiet] at hj
    cases hj
  | append_singleton events e ih =>
    rw [run_concat] at hj
    rcases (effect_step naming _ e).call hj with ⟨j', hj', hcall⟩ | harrived
    · rw [hcall]
      exact List.mem_append_left _ (ih hj')
    · exact List.mem_append_right _ (List.mem_singleton.2 harrived.symm)

/-- Calls that came at the same time did what they do one after another. -/
structure Serialised (naming : DeviceNaming) (start : MemoryWorld) (s : Traffic) : Prop where
  /-- Each job that got its lock stands in the order once. -/
  served : ∀ h, h ∈ s.served ↔ s.Running h ∨ s.Finished h
  nodup : s.served.Nodup
  /-- The finished calls have the outcomes that they have one after another in this order. -/
  outcomes : s.completed.map (·.2) = (Call.runAll naming (s.completed.map (·.1)) start).1
  /-- Once no job runs, the world is the one that they lead to as well. -/
  world : (∀ h, ¬ s.Running h) →
    s.world = (Call.runAll naming (s.completed.map (·.1)) start).2
  /-- All jobs that were not given up can still be brought to their ends. -/
  ending : ∃ more, (∀ e ∈ more, ∃ h, e = .advance h) ∧ ∀ h, ¬ (s.run naming more).Pending h

theorem serialised_of_serial (naming : DeviceNaming) (start : MemoryWorld) {events : List Event}
    (hv : v.isEmpty = false) (hs : Serial naming start v ((quiet start).run naming events)) :
    Serialised naming start ((quiet start).run naming events) := by
  refine ⟨hs.served, hs.nodup, ?outcomes, ?world, ?ending⟩
  case outcomes =>
    cases hs.course with
    | idle free same => rw [same]
    | busy running last same ahead => rw [same]
  case world =>
    intro hfree
    cases hs.course with
    | idle free same => rw [same]
    | busy running last same ahead => exact absurd ⟨_, _, running⟩ (hfree _)
  case ending =>
    refine hs.exists_ending hv (events.map (·.handle)) fun h hp => ?_
    have hjob : ∃ j, ((quiet start).run naming events).job? h = some j := by
      rcases hp with ⟨r, hj⟩ | ⟨r, rest, hj⟩
      · exact ⟨_, hj⟩
      · exact ⟨_, hj⟩
    obtain ⟨j, hj⟩ := hjob
    exact List.mem_map.2 ⟨_, arrive_mem_of_job? naming start events hj, rfl⟩

/-- A finished call was the call of a job. -/
theorem exists_job_of_completed {q : Call} (hq : q ∈ s.completed.map (·.1)) :
    ∃ h j, s.job? h = some j ∧ j.call = q := by
  obtain ⟨x, hx, rfl⟩ := List.mem_map.1 hq
  obtain ⟨h, _, hresult⟩ := List.mem_filterMap.1 hx
  exact ⟨h, _, result?_eq_some_iff.1 hresult, rfl⟩

/-- **Calls on one volume are carried out one after another**, in the order in which they get its
    lock, whatever events come in whatever order, and none is blocked for ever. So a volume that is
    not mounted is mounted once by any number of calls to stage it. -/
theorem serialised_run (naming : TextNaming) (start : MemoryWorld) (v : String)
    (events : List Event) (hv : v.isEmpty = false)
    (harrive : ∀ h r, .arrive h r ∈ events → r.volume = v) :
    Serialised naming start ((quiet start).run naming events) ∧
      ∀ (r : StageRequest) (d : Device), (∀ h q, .arrive h q ∈ events → q = .stage r) →
        naming.device start.tree r.volume = .ok d → start.mounts.entriesOf d.node = [] →
        (∀ h, ¬ ((quiet start).run naming events).Running h) →
        StagedOnce start ((quiet start).run naming events).world d.node
          (((quiet start).run naming events).completed.map (·.2)) := by
  have hserialised := serialised_of_serial naming start hv
    ((serial_quiet naming start v).run hv harrive)
  refine ⟨hserialised, fun r d hstage hdevice hnil hfree => ?_⟩
  have hsame : ∀ q ∈ ((quiet start).run naming events).completed.map (·.1), q = .stage r := by
    intro q hq
    obtain ⟨h, j, hj, hcall⟩ := exists_job_of_completed hq
    rw [← hcall]
    exact hstage h j.call (arrive_mem_of_job? naming start events hj)
  have hcalls := List.eq_replicate_of_mem hsame
  rw [hserialised.outcomes, hserialised.world hfree, hcalls]
  exact runAll_stage hdevice hnil _

/-- A call to stage the first volume of the small machine for a single writer. -/
def writerStage : StageRequest := ⟨"a", "/s", writer []⟩

/-- Three such calls come at the same time. The first one gets the lock, the second one is given up
    while it waits, and the third one comes back again and again while the first one is at work. -/
def crowdedEvents : List Event :=
  [.arrive "p" (.stage writerStage), .arrive "q" (.stage writerStage),
    .arrive "r" (.stage writerStage), .advance "p", .advance "q", .advance "r", .advance "p",
    .advance "r", .advance "p", .cancel "q", .advance "p", .advance "r", .advance "p",
    .advance "r", .advance "p", .advance "r", .advance "r", .advance "r", .advance "r",
    .advance "r"]

/-- The two calls that were not given up succeed, and the device is mounted and formatted once. -/
theorem serialised_run_crowdedEvents :
    Serialised smallNaming smallWorld ((quiet smallWorld).run smallNaming crowdedEvents) ∧
      ((quiet smallWorld).run smallNaming crowdedEvents).served = ["p", "r"] ∧
      ((quiet smallWorld).run smallNaming crowdedEvents).completed =
        [(.stage writerStage, .ok ()), (.stage writerStage, .ok ())] ∧
      (((quiet smallWorld).run smallNaming crowdedEvents).world.mounts.entriesOf "/d/m").length =
        1 ∧
      ((quiet smallWorld).run smallNaming crowdedEvents).world.mounts.timesFormatted "/d/m" =
        1 := by
  have harrive : ∀ h q, .arrive h q ∈ crowdedEvents → q = .stage writerStage := by
    intro h q hq
    simp only [crowdedEvents, List.mem_cons, Event.arrive.injEq, reduceCtorEq, List.not_mem_nil,
      or_false] at hq
    rcases hq with ⟨_, rfl⟩ | ⟨_, rfl⟩ | ⟨_, rfl⟩ <;> rfl
  have hvolume : ∀ h q, .arrive h q ∈ crowdedEvents → q.volume = "a" := fun h q hq => by
    rw [harrive h q hq]
    rfl
  have hrun := serialised_run smallNaming smallWorld "a" crowdedEvents rfl hvolume
  have hserved : ((quiet smallWorld).run smallNaming crowdedEvents).served = ["p", "r"] := by
    decide +kernel
  have hcompleted : ((quiet smallWorld).run smallNaming crowdedEvents).completed =
      [(.stage writerStage, .ok ()), (.stage writerStage, .ok ())] := by decide +kernel
  have hresult : ∀ h ∈ ["p", "r"], ((quiet smallWorld).run smallNaming crowdedEvents).result? h =
      some (.stage writerStage, .ok ()) := by decide +kernel
  have hfree : ∀ h, ¬ ((quiet smallWorld).run smallNaming crowdedEvents).Running h := by
    intro h hr
    have hmem : h ∈ ["p", "r"] := hserved ▸ (hrun.1.served h).2 (.inl hr)
    exact not_running_of_finished (result?_eq_some_iff.1 (hresult h hmem)) hr
  refine ⟨hrun.1, hserved, hcompleted, ?_, by decide +kernel⟩
  have honce := hrun.2 writerStage _ harrive device_smallTree_a rfl hfree
  have hmounts := honce.mounts
  rw [hcompleted] at hmounts
  exact hmounts

end VolumeNode.Traffic
