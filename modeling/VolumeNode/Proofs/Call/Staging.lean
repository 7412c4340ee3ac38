import VolumeNode.Proofs.Call.Run
import VolumeNode.Proofs.Mount.Stack

/-!
# Staging over a table in memory

What a call that stages or unstages a volume does to a world whose mount table is in memory.

* `StageReady` and `UnstageReady` say that a call passes its checks, and what they found. A call
  that is not ready fails and changes nothing (`run_stage_of_not_ready`).
* From there on the mounts of the device decide, one lemma for each way: `run_stage_of_mounted`,
  `run_stage_of_unmounted`, `run_unstage_of_single` and so on.
* `StageEffect` and `UnstageEffect` list all that can come of such a call (`stage_effect`,
  `unstage_effect`).
-/

namespace VolumeNode

/-! ## 1. Staging -/

/-- A call to stage a volume passes its checks: they find this device and this plan. -/
structure StageReady (naming : DeviceNaming) (r : StageRequest) (w : MemoryWorld) (d : Device)
    (plan : MountPlan) : Prop where
  device : naming.device w.tree r.volume = .ok d
  directory : Handler.directoryCheck w.tree r.staging = .ok ()
  plan : MountPlan.ofRequest r.capability = .ok plan
  readable : w.mounts.read = .ok w.mounts.entries

section Stage

variable {naming : DeviceNaming} {r : StageRequest} {w : MemoryWorld} {d : Device}
  {plan : MountPlan}

/-- The course of a call that passes its checks. -/
theorem run_stage (h : StageReady naming r w d plan) :
    (Call.stage r).run MemoryTable.system naming w =
      (match w.mounts.entriesOf d.node with
        | [] => Handler.mountDevice d r.volume r.staging plan
        | mounts =>
          match mounts.find? (·.path == r.staging) with
          | none => throw (.mountedElsewhere d.node r.volume)
          | some entry =>
            Handler.require (entry.carries plan.accessOption)
              (.mountedOtherwise r.volume r.staging entry.options) : Handler Unit).run.run
        MemoryTable.system w := by
  show (Handler.stage naming r).run.run MemoryTable.system w = _
  unfold Handler.stage
  simp only [Handler.run_bind, Handler.run_findDevice, h.device, Handler.run_requireDirectory,
    h.directory, Handler.run_ofExcept, h.plan, Handler.run_entriesOf, h.readable]
  rfl

/-- A call that fails a check changes nothing. -/
theorem run_stage_of_not_ready (h : ¬ ∃ d plan, StageReady naming r w d plan) :
    ∃ e, (Call.stage r).run MemoryTable.system naming w = (.error e, w) := by
  show ∃ e, (Handler.stage naming r).run.run MemoryTable.system w = _
  unfold Handler.stage
  simp only [Handler.run_bind, Handler.run_findDevice]
  cases hd : naming.device w.tree r.volume with
  | error e => exact ⟨e, rfl⟩
  | ok d =>
    simp only [Handler.run_requireDirectory]
    cases hs : Handler.directoryCheck w.tree r.staging with
    | error e => exact ⟨e, rfl⟩
    | ok u =>
      simp only [Handler.run_ofExcept]
      cases hp : MountPlan.ofRequest r.capability with
      | error e => exact ⟨e, rfl⟩
      | ok plan =>
        simp only [Handler.run_entriesOf]
        cases hr : w.mounts.read with
        | error e => exact ⟨e, rfl⟩
        | ok rs =>
          obtain ⟨_, rfl⟩ := MemoryTable.read_eq_ok_iff.1 hr
          exact absurd ⟨d, plan, hd, hs, hp, hr⟩ h

/-- How a device that is mounted already answers. -/
def stageAnswer (r : StageRequest) (d : Device) (plan : MountPlan) (mounts : List MountEntry) :
    Except Refusal Unit :=
  match mounts.find? (·.path == r.staging) with
  | none => .error (.mountedElsewhere d.node r.volume)
  | some entry =>
    if entry.carries plan.accessOption then .ok ()
    else .error (.mountedOtherwise r.volume r.staging entry.options)

/-- A device that is mounted already stays as it is. -/
theorem run_stage_of_mounted (h : StageReady naming r w d plan)
    (hne : w.mounts.entriesOf d.node ≠ []) :
    (Call.stage r).run MemoryTable.system naming w =
      (stageAnswer r d plan (w.mounts.entriesOf d.node), w) := by
  rw [run_stage h]
  unfold stageAnswer
  cases hm : w.mounts.entriesOf d.node with
  | nil => exact absurd hm hne
  | cons m ms =>
    dsimp only
    cases (m :: ms).find? (·.path == r.staging) with
    | none => rfl
    | some entry => exact Handler.run_require _ _ _ _

/-- For a device without mounts, what its link leads to is mounted on the staging directory. -/
theorem run_stage_of_unmounted (h : StageReady naming r w d plan)
    (hnil : w.mounts.entriesOf d.node = []) (hallowed : plan.request ∉ w.mounts.refused) :
    (Call.stage r).run MemoryTable.system naming w =
      (.ok (), { w with
        mounts := w.mounts.mountBy plan (MemoryTable.nodeOf w.tree d.link) r.staging }) := by
  rw [run_stage h, hnil]
  unfold Handler.mountDevice
  unfold MountPlan.request at hallowed
  unfold MemoryTable.mountBy MountPlan.mountFlags
  by_cases hro : plan.readOnly = true
  · simp only [hro, if_true] at hallowed ⊢
    rw [Handler.run_ask_bind, Handler.run_demand]
    simp [Action.perform, World.setMounts, MemoryTable.system, MemoryTable.answer, hallowed]
  · simp only [hro, Bool.false_eq_true, if_false] at hallowed ⊢
    rw [Handler.run_ask_bind, Handler.run_demand]
    simp [Action.perform, World.setMounts, MemoryTable.system, MemoryTable.answer, hallowed]

/-- A refused mount changes nothing. -/
theorem run_stage_of_refused (h : StageReady naming r w d plan)
    (hnil : w.mounts.entriesOf d.node = []) (hrefused : plan.request ∈ w.mounts.refused) :
    ∃ e, (Call.stage r).run MemoryTable.system naming w = (.error e, w) := by
  rw [run_stage h, hnil]
  unfold Handler.mountDevice
  unfold MountPlan.request at hrefused
  by_cases hro : plan.readOnly = true
  · simp only [hro, if_true] at hrefused ⊢
    rw [Handler.run_ask_bind, Handler.run_demand]
    simp [Action.perform, World.setMounts, MemoryTable.system, MemoryTable.answer, hrefused]
  · simp only [hro, Bool.false_eq_true, if_false] at hrefused ⊢
    rw [Handler.run_ask_bind, Handler.run_demand]
    simp [Action.perform, World.setMounts, MemoryTable.system, MemoryTable.answer, hrefused]

end Stage

/-- All that can come of a call to stage a volume. -/
inductive StageEffect (naming : DeviceNaming) (r : StageRequest) (w : MemoryWorld) :
    Except Refusal Unit → MemoryWorld → Prop
  /-- It fails and changes nothing. -/
  | failed (e : Refusal) : StageEffect naming r w (.error e) w
  /-- The volume is staged already. -/
  | present {d : Device} {plan : MountPlan} (ready : StageReady naming r w d plan)
      (mounted : w.mounts.entriesOf d.node ≠ [])
      (fits : stageAnswer r d plan (w.mounts.entriesOf d.node) = .ok ()) :
      StageEffect naming r w (.ok ()) w
  /-- What the link of the device leads to is mounted on the staging directory. -/
  | mounted {d : Device} {plan : MountPlan} (ready : StageReady naming r w d plan)
      (unmounted : w.mounts.entriesOf d.node = []) :
      StageEffect naming r w (.ok ()) { w with
        mounts := w.mounts.mountBy plan (MemoryTable.nodeOf w.tree d.link) r.staging }

/-- Staging takes no mount away. -/
theorem StageEffect.subset {naming : DeviceNaming} {r : StageRequest} {w w' : MemoryWorld}
    {outcome : Except Refusal Unit} (h : StageEffect naming r w outcome w') :
    w.mounts.entries ⊆ w'.mounts.entries := by
  cases h with
  | failed e => exact fun _ hm => hm
  | present ready mounted fits => exact fun _ hm => hm
  | @mounted d plan ready unmounted =>
    show w.mounts.entries ⊆ (w.mounts.mountBy plan _ r.staging).entries
    rw [MemoryTable.entries_mountBy]
    exact List.subset_append_left _ _

theorem StageEffect.tree {naming : DeviceNaming} {r : StageRequest} {w w' : MemoryWorld}
    {outcome : Except Refusal Unit} (h : StageEffect naming r w outcome w') :
    w'.tree = w.tree := by
  cases h <;> rfl

theorem stage_effect (naming : DeviceNaming) (r : StageRequest) (w : MemoryWorld) :
    StageEffect naming r w ((Call.stage r).run MemoryTable.system naming w).1
      ((Call.stage r).run MemoryTable.system naming w).2 := by
  by_cases hready : ∃ d plan, StageReady naming r w d plan
  · obtain ⟨d, plan, h⟩ := hready
    by_cases hnil : w.mounts.entriesOf d.node = []
    · by_cases hreq : plan.request ∈ w.mounts.refused
      · obtain ⟨e, he⟩ := run_stage_of_refused h hnil hreq
        rw [he]
        exact .failed e
      · rw [run_stage_of_unmounted h hnil hreq]
        exact .mounted h hnil
    · rw [run_stage_of_mounted h hnil]
      cases ha : stageAnswer r d plan (w.mounts.entriesOf d.node) with
      | error e => exact .failed e
      | ok u => exact .present h hnil ha
  · obtain ⟨e, he⟩ := run_stage_of_not_ready hready
    rw [he]
    exact .failed e

/-! ## 2. Unstaging -/

/-- A call to take a volume off its staging directory passes its checks. -/
structure UnstageReady (naming : DeviceNaming) (r : UnstageRequest) (w : MemoryWorld)
    (d : Device) : Prop where
  device : naming.device w.tree r.volume = .ok d
  directory : Handler.directoryCheck w.tree r.staging = .ok ()
  readable : w.mounts.read = .ok w.mounts.entries

section Unstage

variable {naming : DeviceNaming} {r : UnstageRequest} {w : MemoryWorld} {d : Device}

theorem run_unstage (h : UnstageReady naming r w d) :
    (Call.unstage r).run MemoryTable.system naming w =
      (match w.mounts.entriesOf d.node with
        | [] => pure ()
        | [entry] => do
          Handler.require (entry.source == d.node && entry.path == r.staging)
            (.notMountedAt r.volume r.staging entry.path)
          Handler.demand (← Handler.ask (.unmount r.staging)) (.unmountFailed r.staging)
        | mounts => throw (.mountedTwice r.volume (mounts.map (·.path))) : Handler Unit).run.run
        MemoryTable.system w := by
  show (Handler.unstage naming r).run.run MemoryTable.system w = _
  unfold Handler.unstage
  simp only [Handler.run_bind, Handler.run_findDevice, h.device, Handler.run_requireDirectory,
    h.directory, Handler.run_entriesOf, h.readable]
  rfl

theorem run_unstage_of_not_ready (h : ¬ ∃ d, UnstageReady naming r w d) :
    ∃ e, (Call.unstage r).run MemoryTable.system naming w = (.error e, w) := by
  show ∃ e, (Handler.unstage naming r).run.run MemoryTable.system w = _
  unfold Handler.unstage
  simp only [Handler.run_bind, Handler.run_findDevice]
  cases hd : naming.device w.tree r.volume with
  | error e => exact ⟨e, rfl⟩
  | ok d =>
    simp only [Handler.run_requireDirectory]
    cases hs : Handler.directoryCheck w.tree r.staging with
    | error e => exact ⟨e, rfl⟩
    | ok u =>
      simp only [Handler.run_entriesOf]
      cases hr : w.mounts.read with
      | error e => exact ⟨e, rfl⟩
      | ok rs =>
        obtain ⟨_, rfl⟩ := MemoryTable.read_eq_ok_iff.1 hr
        exact absurd ⟨d, hd, hs, hr⟩ h

theorem run_unstage_of_unmounted (h : UnstageReady naming r w d)
    (hnil : w.mounts.entriesOf d.node = []) :
    (Call.unstage r).run MemoryTable.system naming w = (.ok (), w) := by
  rw [run_unstage h, hnil]
  rfl

/-- A device with one mount, at the staging directory, is unmounted there. What goes is what lies
    on top at that path, be it this mount or not. -/
theorem run_unstage_of_single (h : UnstageReady naming r w d) {m : MountEntry}
    (hsingle : w.mounts.entriesOf d.node = [m]) (hsource : m.source = d.node)
    (hpath : m.path = r.staging) :
    (Call.unstage r).run MemoryTable.system naming w =
      ((MemoryTable.system.unmount r.staging w.tree w.mounts).1.mapError
          (.unmountFailed r.staging),
        { w with mounts := (MemoryTable.system.unmount r.staging w.tree w.mounts).2 }) := by
  rw [run_unstage h, hsingle]
  dsimp only
  rw [Handler.run_bind, Handler.run_require]
  simp only [hsource, hpath, beq_self_eq_true, Bool.and_self, if_true]
  rw [Handler.run_ask_bind, Handler.run_demand]
  rfl

theorem run_unstage_of_elsewhere (h : UnstageReady naming r w d) {m : MountEntry}
    (hsingle : w.mounts.entriesOf d.node = [m])
    (hat : ¬ (m.source = d.node ∧ m.path = r.staging)) :
    (Call.unstage r).run MemoryTable.system naming w =
      (.error (.notMountedAt r.volume r.staging m.path), w) := by
  have hfalse : (m.source == d.node && m.path == r.staging) = false := by simpa using hat
  rw [run_unstage h, hsingle]
  dsimp only
  rw [Handler.run_bind, Handler.run_require, hfalse]
  rfl

end Unstage

/-- All that can come of a call to take a volume off its staging directory. -/
inductive UnstageEffect (naming : DeviceNaming) (r : UnstageRequest) (w : MemoryWorld) :
    Except Refusal Unit → MemoryWorld → Prop
  /-- It fails and changes nothing. -/
  | failed (e : Refusal) : UnstageEffect naming r w (.error e) w
  /-- The device has no mounts. -/
  | absent {d : Device} (ready : UnstageReady naming r w d)
      (unmounted : w.mounts.entriesOf d.node = []) : UnstageEffect naming r w (.ok ()) w
  /-- The device had one mount, at the staging directory, and that path was unmounted. -/
  | unmounted {d : Device} {m : MountEntry} (ready : UnstageReady naming r w d)
      (single : w.mounts.entriesOf d.node = [m]) (source : m.source = d.node)
      (path : m.path = r.staging) :
      UnstageEffect naming r w (.ok ())
        { w with mounts := w.mounts.unmountTimes r.staging 1 }

/-- Unstaging is one unmount of the staging directory, if it changes anything. -/
theorem UnstageEffect.entries {naming : DeviceNaming} {r : UnstageRequest} {w w' : MemoryWorld}
    {outcome : Except Refusal Unit} (h : UnstageEffect naming r w outcome w') :
    ∃ n, w'.mounts.entries = MemoryTable.popTimes r.staging n w.mounts.entries := by
  cases h with
  | failed e => exact ⟨0, rfl⟩
  | absent ready unmounted => exact ⟨0, rfl⟩
  | unmounted ready single source path => exact ⟨1, rfl⟩

theorem UnstageEffect.tree {naming : DeviceNaming} {r : UnstageRequest} {w w' : MemoryWorld}
    {outcome : Except Refusal Unit} (h : UnstageEffect naming r w outcome w') :
    w'.tree = w.tree := by
  cases h <;> rfl

theorem unstage_effect (naming : DeviceNaming) (r : UnstageRequest) (w : MemoryWorld) :
    UnstageEffect naming r w ((Call.unstage r).run MemoryTable.system naming w).1
      ((Call.unstage r).run MemoryTable.system naming w).2 := by
  by_cases hready : ∃ d, UnstageReady naming r w d
  · obtain ⟨d, h⟩ := hready
    cases hm : w.mounts.entriesOf d.node with
    | nil =>
      rw [run_unstage_of_unmounted h hm]
      exact .absent h hm
    | cons m ms =>
      cases ms with
      | cons m' ms =>
        rw [run_unstage h, hm]
        exact .failed _
      | nil =>
        by_cases hat : m.source = d.node ∧ m.path = r.staging
        · obtain ⟨hsource, hpath⟩ := hat
          rw [run_unstage_of_single h hm hsource hpath]
          by_cases href : MountRequest.unmount ∈ w.mounts.refused
          · rw [MemoryTable.unmount_of_refused href]
            exact .failed _
          · -- the mount itself lies at the path, so an unmount finds something there
            have hmem : m ∈ w.mounts.entries := MemoryTable.mem_entries_of_single hm
            obtain ⟨rs, hpop⟩ := MemoryTable.exists_popAt hmem hpath
            rw [MemoryTable.unmount_of_popAt hpop href,
              ← MemoryTable.unmountTimes_one_of_popAt hpop]
            exact .unmounted h hm hsource hpath
        · rw [run_unstage_of_elsewhere h hm hat]
          exact .failed _
  · obtain ⟨e, he⟩ := run_unstage_of_not_ready hready
    rw [he]
    exact .failed e

end VolumeNode
