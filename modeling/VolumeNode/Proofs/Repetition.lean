import VolumeNode.Proofs.Call.Course

/-!
# Staging a volume twice

A call to stage a volume that was carried out may be made again, since the caller cannot know that
it was. The second call finds what the first one mounted.

* **`stage_again`**: the second call changes nothing at all. It succeeds as the first one did,
  unless the first one mounted the device by a contradictory plan: one for writing whose flags hold
  `ro`. The mount is for reading only then, and the second call refuses it.
* `stage_not_repeatable` is such a case.
* So a call may be made any number of times: if one of them succeeds the device has one mount
  (`StagedOnce`, `runAll_stage`).

The second call finds the mount by the node of the device, and the first one made it by the text of
the link. The two belong together since the directory of links is a text (`TextNaming`).
-/

namespace VolumeNode

variable {naming : TextNaming} {r : StageRequest} {w w' : MemoryWorld} {d : Device}
  {plan : MountPlan}

/-- The checks of a call pass again after the call was carried out. -/
theorem StageReady.after_mountBy (h : StageReady naming r w d plan) :
    StageReady naming r { w with mounts := w.mounts.mountBy plan d.node r.staging } d plan where
  device := h.device
  directory := h.directory
  plan := h.plan
  readable := by
    obtain ⟨hreadable, _⟩ := MemoryTable.read_eq_ok_iff.1 h.readable
    refine MemoryTable.read_eq_ok_iff.2 ⟨?_, rfl⟩
    rwa [MemoryTable.refused_mountBy]

/-- A device whose only mount was made by a plan answers by the options of this mount. -/
theorem stageAnswer_mountBy (r : StageRequest) (d : Device) (plan : MountPlan) :
    stageAnswer r d plan
        [MemoryTable.deviceEntry d.node r.staging plan.fsType plan.mountFlags] =
      if plan.Contradictory then
        .error (.mountedOtherwise r.volume r.staging (MemoryTable.optionsOf plan.mountFlags))
      else .ok () := by
  have hpath : (MemoryTable.deviceEntry d.node r.staging plan.fsType plan.mountFlags).path =
      r.staging := rfl
  have hcarries := MemoryTable.carries_mountBy_iff plan d.node r.staging plan.fsType
  unfold stageAnswer
  rw [List.find?_cons_of_pos (by simp [hpath])]
  by_cases hc : plan.Contradictory
  · have hnot : ¬ (MemoryTable.deviceEntry d.node r.staging plan.fsType plan.mountFlags).carries
        plan.accessOption = true := fun h => hcarries.1 h hc
    simp only [hnot, hc, Bool.false_eq_true, if_false, if_true]
    rfl
  · simp only [hcarries.2 hc, hc, if_true, if_false]

/-- **A call to stage a volume that succeeded changes nothing when it is made again.** It fails then
    exactly if it mounted the device by a contradictory plan. -/
theorem stage_again (h : (Call.stage r).run MemoryTable.system naming w = (.ok (), w')) :
    ∃ d plan, naming.device w.tree r.volume = .ok d ∧
      MountPlan.ofRequest r.capability = .ok plan ∧
      ((Call.stage r).run MemoryTable.system naming w').2 = w' ∧
      (((Call.stage r).run MemoryTable.system naming w').1 = .ok () ↔
        ¬ (w.mounts.entriesOf d.node = [] ∧ plan.Contradictory)) := by
  have heffect := stage_effect naming r w
  rw [h] at heffect
  cases heffect with
  | @present d plan ready mounted fits =>
    refine ⟨d, plan, ready.device, ready.plan, ?_, ?_⟩
    · rw [h]
    · rw [h]
      exact ⟨fun _ hc => mounted hc.1, fun _ => rfl⟩
  | @mounted d plan ready unmounted =>
    rw [MemoryTable.nodeOf_link ready.device] at h ⊢
    have hof : (w.mounts.mountBy plan d.node r.staging).entriesOf d.node =
        [MemoryTable.deviceEntry d.node r.staging plan.fsType plan.mountFlags] := by
      rw [MemoryTable.entriesOf_mountBy, unmounted, if_pos rfl]
      rfl
    have hagain :=
      run_stage_of_mounted ready.after_mountBy (by rw [hof]; exact List.cons_ne_nil _ _)
    rw [hof, stageAnswer_mountBy] at hagain
    refine ⟨d, plan, ready.device, ready.plan, ?_, ?_⟩
    · rw [hagain]
    · rw [hagain]
      by_cases hc : plan.Contradictory
      · simp [unmounted, hc]
      · simp [hc]

/-- The small machine with the first volume staged at `/s` for writing, without flags. -/
def stagedWorld : MemoryWorld :=
  { smallWorld with mounts := smallWorld.mounts.mountBy ⟨"ext4", [], false⟩ "/d/m" "/s" }

/-- Without flags nothing contradicts, so this volume may be staged as often as one likes. -/
theorem stage_again_smallWorld :
    ∃ d plan, smallNaming.device smallTree "a" = .ok d ∧
      MountPlan.ofRequest (writer []) = .ok plan ∧
      ((Call.stage ⟨"a", "/s", writer []⟩).run MemoryTable.system smallNaming stagedWorld).2 =
        stagedWorld ∧
      (((Call.stage ⟨"a", "/s", writer []⟩).run MemoryTable.system smallNaming stagedWorld).1 =
          .ok () ↔ ¬ (smallWorld.mounts.entriesOf d.node = [] ∧ plan.Contradictory)) := by
  have hfirst : (Call.stage ⟨"a", "/s", writer []⟩).run MemoryTable.system smallNaming smallWorld =
      (.ok (), stagedWorld) := by decide +kernel
  exact stage_again hfirst

/-- A writer whose flags hold `ro` has the volume mounted for reading only, and is refused when it
    asks again. -/
theorem stage_not_repeatable :
    ¬ ∀ (naming : TextNaming) (r : StageRequest) (w w' : MemoryWorld),
        (Call.stage r).run MemoryTable.system naming w = (.ok (), w') →
        (Call.stage r).run MemoryTable.system naming w' = (.ok (), w') := by
  intro h
  have hfirst : ((Call.stage ⟨"a", "/s", writer ["ro"]⟩).run MemoryTable.system smallNaming
      smallWorld).1 = .ok () := by decide +kernel
  have hagain := h smallNaming _ smallWorld _ (Prod.ext hfirst rfl)
  exact absurd (congrArg Prod.fst hagain) (by decide +kernel)

/-! ## Any number of times -/

/-- A device without mounts was mounted once if any call succeeded, and not at all otherwise. -/
structure StagedOnce (w w' : MemoryWorld) (node : String) (outcomes : List (Except Refusal Unit)) :
    Prop where
  mounts : (w'.mounts.entriesOf node).length = if .ok () ∈ outcomes then 1 else 0
  formats : w'.mounts.timesFormatted node ≤ w.mounts.timesFormatted node + 1

/-- **A volume that is not mounted is mounted once**, however often it is staged. -/
theorem runAll_stage (hdevice : naming.device w.tree r.volume = .ok d)
    (hnil : w.mounts.entriesOf d.node = []) (n : Nat) :
    StagedOnce w (Call.runAll naming (List.replicate n (.stage r)) w).2 d.node
      (Call.runAll naming (List.replicate n (.stage r)) w).1 := by
  cases n with
  | zero => exact ⟨by rw [List.replicate_zero, Call.runAll, hnil]; rfl, Nat.le_succ _⟩
  | succ n =>
    have heffect := stage_effect naming r w
    cases hrun : (Call.stage r).run MemoryTable.system naming w with
    | mk outcome w' =>
      rw [hrun] at heffect
      cases heffect with
      | failed e =>
        rw [Call.runAll_replicate hrun]
        refine ⟨?_, Nat.le_succ _⟩
        rw [hnil, if_neg]
        · rfl
        · intro hok
          cases List.eq_of_mem_replicate hok
      | @present d' plan ready mounted fits =>
        have hd : d' = d := Except.ok.inj (ready.device.symm.trans hdevice)
        exact absurd hnil (hd ▸ mounted)
      | @mounted d' plan ready unmounted =>
        have hd : d' = d := Except.ok.inj (ready.device.symm.trans hdevice)
        subst hd
        rw [MemoryTable.nodeOf_link ready.device] at hrun
        have hof : (w.mounts.mountBy plan d'.node r.staging).entriesOf d'.node =
            [MemoryTable.deviceEntry d'.node r.staging plan.fsType plan.mountFlags] := by
          rw [MemoryTable.entriesOf_mountBy, unmounted, if_pos rfl]
          rfl
        have hagain := run_stage_of_mounted ready.after_mountBy
          (by rw [hof]; exact List.cons_ne_nil _ _)
        rw [List.replicate_succ, Call.runAll_cons hrun, Call.runAll_replicate hagain]
        refine ⟨?_, MemoryTable.timesFormatted_mountBy_le _ _ _ _⟩
        rw [hof, if_pos List.mem_cons_self]
        rfl

end VolumeNode
