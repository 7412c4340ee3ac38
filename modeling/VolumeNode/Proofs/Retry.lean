import VolumeNode.Proofs.ReadOnlyPublication
import VolumeNode.Proofs.Repetition

/-!
# Calls after failed attempts

A caller that gets no success makes its call again, any number of times. What the attempts before
did must not matter.

* `World.refusing` is a world in which the mount table refuses certain requests. What is refused can
  be another thing in each attempt (`FailedAttempts`).
* A failed attempt to stage or unstage changes nothing, and one to publish leaves at most its target
  behind. With the target made **the call goes on as it would have without** (`run_publish_made`).
* What is refused decides whether a call succeeds, but not what it does if it succeeds
  (`run_unhindered_of_ok`).
* `AsAtFirst` says that earlier attempts do not matter. **`Call.asAtFirst_of_failedAttempts`**: they
  do not for calls to stage, unstage and publish.
-/

namespace VolumeNode

/-! ## 1. Refusals -/

namespace World

/-- The same world, with these requests refused. -/
def refusing (w : World MemoryTable) (refused : List MountRequest) : World MemoryTable :=
  { w with mounts := { w.mounts with refused } }

/-- Only the last word on refusals counts. -/
@[simp] theorem refusing_refusing (w : World MemoryTable) (refused refused' : List MountRequest) :
    (w.refusing refused).refusing refused' = w.refusing refused' := rfl

end World

/-- Two worlds have the same files, mounts, filesystems and counts of formats. -/
structure SameContent (w w' : MemoryWorld) : Prop where
  tree : w.tree = w'.tree
  entries : w.mounts.entries = w'.mounts.entries
  filesystems : w.mounts.filesystems = w'.mounts.filesystems
  formats : w.mounts.formats = w'.mounts.formats

theorem SameContent.of_refusing {w w' : MemoryWorld} (h : w.refusing [] = w'.refusing []) :
    SameContent w w' where
  tree := congrArg (·.tree) h
  entries := congrArg (·.mounts.entries) h
  filesystems := congrArg (·.mounts.filesystems) h
  formats := congrArg (·.mounts.formats) h

/-- A mount is entered without a look at what is refused. -/
theorem MemoryTable.mountBy_allowed (s : MemoryTable) (plan : MountPlan) (node staging : String) :
    ({ s with refused := [] }).mountBy plan node staging =
      { s.mountBy plan node staging with refused := [] } := by
  have hformat : ({ s with refused := [] }).formatIfBlank node plan.fsType =
      { s.formatIfBlank node plan.fsType with refused := [] } := by
    unfold formatIfBlank
    rw [show ({ s with refused := [] } : MemoryTable).filesystem? node = s.filesystem? node
      from rfl]
    cases s.filesystem? node <;> rfl
  unfold mountBy
  rw [hformat]
  split <;> rfl

/-! ## 2. Success -/

section Success

variable {naming : DeviceNaming} {w w₁ : MemoryWorld} {refused : List MountRequest}

theorem run_stage_unhindered {r : StageRequest}
    (h : (Call.stage r).run MemoryTable.system naming (w.refusing refused) = (.ok (), w₁)) :
    (Call.stage r).run MemoryTable.system naming (w.refusing []) = (.ok (), w₁.refusing []) := by
  have heffect := stage_effect naming r (w.refusing refused)
  rw [h] at heffect
  cases heffect with
  | @present d plan ready mounted fits =>
    have hready : StageReady naming r (w.refusing []) d plan :=
      ⟨ready.device, ready.directory, ready.plan, rfl⟩
    rw [run_stage_of_mounted hready mounted]
    exact Prod.ext fits rfl
  | @mounted d plan ready unmounted =>
    have hready : StageReady naming r (w.refusing []) d plan :=
      ⟨ready.device, ready.directory, ready.plan, rfl⟩
    have hmounts := (w.refusing refused).mounts.mountBy_allowed plan
      (MemoryTable.nodeOf w.tree d.link) r.staging
    rw [run_stage_of_unmounted hready unmounted List.not_mem_nil]
    exact congrArg (fun mounts => (Except.ok (), World.mk w.tree mounts)) hmounts

theorem run_unstage_unhindered {r : UnstageRequest}
    (h : (Call.unstage r).run MemoryTable.system naming (w.refusing refused) = (.ok (), w₁)) :
    (Call.unstage r).run MemoryTable.system naming (w.refusing []) = (.ok (), w₁.refusing []) := by
  have heffect := unstage_effect naming r (w.refusing refused)
  rw [h] at heffect
  cases heffect with
  | @absent d ready unmounted =>
    have hready : UnstageReady naming r (w.refusing []) d := ⟨ready.device, ready.directory, rfl⟩
    exact run_unstage_of_unmounted hready unmounted
  | @unmounted d m ready single source path =>
    have hready : UnstageReady naming r (w.refusing []) d := ⟨ready.device, ready.directory, rfl⟩
    obtain ⟨rs, hpop⟩ := MemoryTable.exists_popAt (MemoryTable.mem_entries_of_single single) path
    have hpop' : MemoryTable.popAt r.staging (w.refusing []).mounts.entries = some rs := hpop
    rw [run_unstage_of_single hready single source path,
      MemoryTable.unmount_of_popAt hpop' List.not_mem_nil,
      MemoryTable.unmountTimes_one_of_popAt hpop]
    rfl

theorem run_publish_unhindered {r : PublishRequest}
    (h : (Call.publish r).run MemoryTable.system naming (w.refusing refused) = (.ok (), w₁)) :
    (Call.publish r).run MemoryTable.system naming (w.refusing []) = (.ok (), w₁.refusing []) := by
  have heffect := publish_effect naming r (w.refusing refused)
  rw [h] at heffect
  cases heffect with
  | @present d plan tree m ready published fits =>
    have hready : PublishReady naming r (w.refusing []) d plan tree :=
      ⟨ready.device, ready.target, ready.made, ready.directory, ready.plan, rfl⟩
    rw [run_publish_of_published hready published, if_pos fits]
    rfl
  | @bound d plan tree ready unpublished staged =>
    have hready : PublishReady naming r (w.refusing []) d plan tree :=
      ⟨ready.device, ready.target, ready.made, ready.directory, ready.plan, rfl⟩
    rw [run_publish_of_bind hready unpublished staged,
      MemoryTable.bindTo_of_allowed List.not_mem_nil]
    rfl

/-- **A call that succeeds among refusals does the same if nothing is refused.** -/
theorem Call.run_unhindered_of_ok {r : Call} (hr : ∀ q, r ≠ .unpublish q)
    (h : r.run MemoryTable.system naming (w.refusing refused) = (.ok (), w₁)) :
    r.run MemoryTable.system naming (w.refusing []) = (.ok (), w₁.refusing []) := by
  cases r with
  | stage r => exact run_stage_unhindered h
  | unstage r => exact run_unstage_unhindered h
  | publish r => exact run_publish_unhindered h
  | unpublish r => exact absurd rfl (hr r)

end Success

/-! ## 3. Failure -/

section Failure

variable {naming : DeviceNaming} {w w' : MemoryWorld} {e : Refusal}

/-- **With its target made, a call to publish goes on as it would have without.** -/
theorem run_publish_made {r : PublishRequest} {d : Device} {tree : FileTree}
    (hdevice : naming.device w.tree r.volume = .ok d)
    (htarget : Handler.targetCheck r.target = .ok ())
    (hmade : Handler.makeTarget? w.tree r.target = .ok tree) :
    (Call.publish r).run MemoryTable.system naming { w with tree } =
      (Call.publish r).run MemoryTable.system naming w := by
  have hdevice' : naming.device tree r.volume = .ok d := by
    obtain ⟨new, rfl⟩ := Handler.exists_grow_of_makeTarget? hmade
    exact FileTree.device_grow new hdevice
  show (Handler.publish naming r).run.run MemoryTable.system { w with tree } =
    (Handler.publish naming r).run.run MemoryTable.system w
  unfold Handler.publish
  simp only [Handler.run_bind, Handler.run_findDevice, hdevice, hdevice', Handler.run_requireTarget,
    htarget, Handler.run_makeTarget, hmade, Handler.makeTarget?_again hmade]

/-- A call to publish that fails changes nothing, or has made its target. -/
theorem run_publish_of_failed {r : PublishRequest}
    (h : (Call.publish r).run MemoryTable.system naming w = (.error e, w')) :
    w' = w ∨ ∃ d tree, naming.device w.tree r.volume = .ok d ∧
      Handler.targetCheck r.target = .ok () ∧ Handler.makeTarget? w.tree r.target = .ok tree ∧
        w' = { w with tree } := by
  have heffect := publish_effect naming r w
  rw [h] at heffect
  cases heffect with
  | failed e tree made =>
    rcases made with rfl | hmade
    · exact .inl rfl
    change (Handler.publish naming r).run.run MemoryTable.system w = _ at h
    unfold Handler.publish at h
    simp only [Handler.run_bind, Handler.run_findDevice, Handler.run_requireTarget] at h
    -- before the target is made, a check may have failed
    cases hdevice : naming.device w.tree r.volume with
    | error e =>
      rw [hdevice] at h
      exact .inl (Prod.ext_iff.1 h).2.symm
    | ok d =>
      cases htarget : Handler.targetCheck r.target with
      | error e =>
        rw [hdevice, htarget] at h
        exact .inl (Prod.ext_iff.1 h).2.symm
      | ok u => exact .inr ⟨d, tree, rfl, rfl, hmade, rfl⟩

/-- The attempts of a call that failed, one after another, with other requests refused in each. -/
inductive FailedAttempts (naming : DeviceNaming) (r : Call) : MemoryWorld → MemoryWorld → Prop
  | none (w : MemoryWorld) : FailedAttempts naming r w w
  | first {w w₁ w' : MemoryWorld} {e : Refusal} (refused : List MountRequest)
      (failed : r.run MemoryTable.system naming (w.refusing refused) = (.error e, w₁))
      (others : FailedAttempts naming r w₁ w') : FailedAttempts naming r w w'

theorem FailedAttempts.attempt {r : Call} (refused : List MountRequest)
    (failed : (r.run MemoryTable.system naming (w.refusing refused)).1 = .error e)
    (others : FailedAttempts naming r (r.run MemoryTable.system naming (w.refusing refused)).2 w') :
    FailedAttempts naming r w w' :=
  .first refused (Prod.ext failed rfl) others

/-- After a failed attempt, the next one ends as if it were the first. -/
theorem run_of_failed {r : Call} (hr : ∀ q, r ≠ .unpublish q) (refused : List MountRequest)
    (h : r.run MemoryTable.system naming w = (.error e, w')) :
    r.run MemoryTable.system naming (w'.refusing refused) =
      r.run MemoryTable.system naming (w.refusing refused) := by
  cases r with
  | stage r =>
    have heffect := stage_effect naming r w
    rw [h] at heffect
    cases heffect
    rfl
  | unstage r =>
    have heffect := unstage_effect naming r w
    rw [h] at heffect
    cases heffect
    rfl
  | publish r =>
    obtain rfl | ⟨d, tree, hdevice, htarget, hmade, rfl⟩ := run_publish_of_failed h
    · rfl
    · exact run_publish_made (w := w.refusing refused) hdevice htarget hmade
  | unpublish r => exact absurd rfl (hr r)

theorem run_of_failedAttempts {r : Call} (hr : ∀ q, r ≠ .unpublish q)
    (h : FailedAttempts naming r w w') (refused : List MountRequest) :
    r.run MemoryTable.system naming (w'.refusing refused) =
      r.run MemoryTable.system naming (w.refusing refused) := by
  induction h with
  | none w => rfl
  | first refused₁ failed others ih =>
    rw [ih, run_of_failed hr refused failed, World.refusing_refusing]

end Failure

/-! ## 4. Retries -/

/-- Earlier attempts of a call, which led from the first world to the second, do not matter to
    it. -/
structure AsAtFirst (naming : DeviceNaming) (r : Call) (w w' : MemoryWorld) : Prop where
  /-- Whatever is refused, the call ends as it would have ended at first. -/
  same : ∀ refused, r.run MemoryTable.system naming (w'.refusing refused) =
    r.run MemoryTable.system naming (w.refusing refused)
  /-- A success leaves what a success at first would have left, whatever is refused in either. -/
  content : ∀ refused refused' w₁ w₂,
    r.run MemoryTable.system naming (w'.refusing refused) = (.ok (), w₁) →
    r.run MemoryTable.system naming (w.refusing refused') = (.ok (), w₂) → SameContent w₁ w₂
  /-- With nothing refused the call succeeds exactly if it would have succeeded at first. -/
  unhindered : (∃ w₁, r.run MemoryTable.system naming (w'.refusing []) = (.ok (), w₁)) ↔
    ∃ w₁, r.run MemoryTable.system naming (w.refusing []) = (.ok (), w₁)

/-- **Failed attempts do not matter** to calls that stage, unstage or publish a volume. -/
theorem Call.asAtFirst_of_failedAttempts {naming : DeviceNaming} {r : Call} {w w' : MemoryWorld}
    (hr : ∀ q, r ≠ .unpublish q) (h : FailedAttempts naming r w w') :
    AsAtFirst naming r w w' where
  same := run_of_failedAttempts hr h
  content refused refused' w₁ w₂ h₁ h₂ := by
    rw [run_of_failedAttempts hr h] at h₁
    have hboth := (run_unhindered_of_ok hr h₁).symm.trans (run_unhindered_of_ok hr h₂)
    exact .of_refusing (Prod.ext_iff.1 hboth).2
  unhindered := by rw [run_of_failedAttempts hr h]

/-- The staged volume of the small machine, at a target that is not there. -/
def newTarget : PublishRequest := ⟨"a", "/s", "/p", writer [], false⟩

/-- The target is made by an attempt whose bind is refused, and another attempt cannot read the
    table. Then the call succeeds, as it would have done at first. -/
theorem asAtFirst_newTarget :
    ∃ w', FailedAttempts smallNaming (.publish newTarget) stagedWorld w' ∧
      w'.tree ≠ stagedWorld.tree ∧ AsAtFirst smallNaming (.publish newTarget) stagedWorld w' ∧
      ((Call.publish newTarget).run MemoryTable.system smallNaming (w'.refusing [])).1 =
        .ok () := by
  have hbind : ((Call.publish newTarget).run MemoryTable.system smallNaming
      (stagedWorld.refusing [.bindTo])).1 =
        .error (.bindFailed "a" "/p" (.toolFailed "mount" "injected failure")) := by decide +kernel
  have hread : ((Call.publish newTarget).run MemoryTable.system smallNaming
      (((Call.publish newTarget).run MemoryTable.system smallNaming
        (stagedWorld.refusing [.bindTo])).2.refusing [.entries])).1 =
          .error (.unreadableTable (.toolFailed "mountinfo" "injected failure")) := by
    decide +kernel
  have hfailed := FailedAttempts.attempt [.bindTo] hbind (.attempt [.entries] hread (.none _))
  exact ⟨_, hfailed, by decide +kernel, Call.asAtFirst_of_failedAttempts nofun hfailed,
    by decide +kernel⟩

end VolumeNode
