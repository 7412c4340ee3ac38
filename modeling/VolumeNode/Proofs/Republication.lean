import VolumeNode.Proofs.Call.Course

/-!
# Publishing a volume that is published

A volume is published at a target where its device has mounts there and the first of them carries
the option that is asked for. To publish it there again is to change no mount.

* `PublishValid`: a call passes the checks that do not look at mounts. What comes of it then depends
  on how many mounts the device has: with several of them the one at the target is found
  (`PublishValid.run_of_several`), but a single one counts as the one that the volume is staged
  with, wherever it is, and the staging directory is bound on top of it
  (`PublishValid.run_of_single`).
* **`publish_again_iff`**: the call succeeds and changes no mount exactly if the table can be read
  and the mount at the target is not the only one of the device.
* `publish_not_repeatable`: a published volume whose staging mount was taken away from outside is
  published once more.
-/

namespace VolumeNode

/-- The first mount of a device at a target. -/
def MemoryTable.firstAt? (s : MemoryTable) (node target : String) : Option MountEntry :=
  (s.entriesOf node).find? (·.path == target)

/-- A call to publish a volume passes the checks that do not look at mounts: they find this device
    and this plan, and leave this tree, in which something is at the target. -/
structure PublishValid (naming : DeviceNaming) (r : PublishRequest) (w : MemoryWorld) (d : Device)
    (plan : MountPlan) (tree : FileTree) : Prop where
  device : naming.device w.tree r.volume = .ok d
  target : Handler.targetCheck r.target = .ok ()
  made : Handler.makeTarget? w.tree r.target = .ok tree
  directory : Handler.directoryCheck tree r.staging = .ok ()
  plan : MountPlan.ofRequest r.capability = .ok plan

variable {naming : DeviceNaming} {r : PublishRequest} {w : MemoryWorld} {d : Device}
  {plan : MountPlan} {tree : FileTree} {m : MountEntry}

namespace PublishValid

theorem ready (h : PublishValid naming r w d plan tree)
    (hreadable : MountRequest.entries ∉ w.mounts.refused) :
    PublishReady naming r w d plan tree where
  device := h.device
  target := h.target
  made := h.made
  directory := h.directory
  plan := h.plan
  readable := MemoryTable.read_eq_ok_iff.2 ⟨hreadable, rfl⟩

/-- A table that cannot be read makes every call fail. -/
theorem run_of_unreadable (naming : DeviceNaming) (r : PublishRequest)
    (hrefused : MountRequest.entries ∈ w.mounts.refused) :
    ∃ e tree, (Call.publish r).run MemoryTable.system naming w = (.error e, { w with tree }) := by
  have hnot : ¬ ∃ d plan tree, PublishReady naming r w d plan tree := by
    rintro ⟨_, _, _, hready⟩
    exact (MemoryTable.read_eq_ok_iff.1 hready.readable).1 hrefused
  obtain ⟨e, tree, he, _⟩ := run_publish_of_not_ready hnot
  exact ⟨e, tree, he⟩

/-- Among several mounts of the device the one at the target is found. -/
theorem run_of_several (h : PublishValid naming r w d plan tree)
    (hreadable : MountRequest.entries ∉ w.mounts.refused)
    (hm : w.mounts.firstAt? d.node r.target = some m)
    (hfits : m.carries (accessOption r.readOnly) = true)
    (hseveral : 1 < (w.mounts.entriesOf d.node).length) :
    (Call.publish r).run MemoryTable.system naming w = (.ok (), { w with tree }) := by
  have hpublished : Handler.published? (w.mounts.entriesOf d.node) r.target = some m := by
    unfold Handler.published?
    rw [if_pos hseveral]
    exact hm
  rw [run_publish_of_published (h.ready hreadable) hpublished, if_pos hfits]

/-- A single mount of the device is taken for the one it is staged with, even at the target. -/
theorem run_of_single (h : PublishValid naming r w d plan tree)
    (hreadable : MountRequest.entries ∉ w.mounts.refused)
    (hsingle : w.mounts.entriesOf d.node = [m]) :
    (Call.publish r).run MemoryTable.system naming w =
      ((MemoryTable.system.bindTo r.staging r.target (Handler.publishFlags plan.flags r.readOnly)
          tree w.mounts).1.mapError (.bindFailed r.volume r.target),
        ⟨tree, (MemoryTable.system.bindTo r.staging r.target
          (Handler.publishFlags plan.flags r.readOnly) tree w.mounts).2⟩) := by
  refine run_publish_of_bind (h.ready hreadable) ?_ ?_
  · rw [hsingle]
    rfl
  · rw [hsingle]
    exact List.cons_ne_nil m []

end PublishValid

/-- **To publish a volume that is published changes no mount and succeeds** exactly if the table can
    be read and the device has further mounts. -/
theorem publish_again_iff (h : PublishValid naming r w d plan tree)
    (hm : w.mounts.firstAt? d.node r.target = some m)
    (hfits : m.carries (accessOption r.readOnly) = true) :
    (((Call.publish r).run MemoryTable.system naming w).1 = .ok () ∧
        ((Call.publish r).run MemoryTable.system naming w).2.mounts = w.mounts) ↔
      MountRequest.entries ∉ w.mounts.refused ∧ w.mounts.entriesOf d.node ≠ [m] := by
  by_cases href : MountRequest.entries ∈ w.mounts.refused
  · obtain ⟨e, tree, he⟩ := PublishValid.run_of_unreadable naming r href
    rw [he]
    simp [href]
  have hmem : m ∈ w.mounts.entriesOf d.node := List.mem_of_find?_eq_some hm
  by_cases hsingle : w.mounts.entriesOf d.node = [m]
  · rw [h.run_of_single href hsingle]
    by_cases hbind : MountRequest.bindTo ∈ w.mounts.refused
    · rw [MemoryTable.bindTo_of_refused hbind]
      simp [hsingle, Except.mapError]
    · -- the bind adds an entry
      rw [MemoryTable.bindTo_of_allowed hbind]
      have hadded : ∀ e, w.mounts.insert e ≠ w.mounts := by
        intro e hsame
        have hentries := congrArg MemoryTable.entries hsame
        rw [MemoryTable.entries_insert] at hentries
        exact absurd hentries (by simp)
      simp [hsingle, hadded]
  · have hseveral : 1 < (w.mounts.entriesOf d.node).length := by
      rcases hof : w.mounts.entriesOf d.node with _ | ⟨x, _ | ⟨y, rest⟩⟩
      · rw [hof] at hmem
        exact absurd hmem List.not_mem_nil
      · rw [hof] at hmem hsingle
        exact absurd (by rw [List.mem_singleton.1 hmem]) hsingle
      · exact Nat.succ_lt_succ (Nat.succ_pos _)
    rw [h.run_of_several href hm hfits hseveral]
    simp [href, hsingle]

/-- The small machine with the first volume staged at `/s` and published at `/t`. -/
def mountedTwiceWorld : MemoryWorld :=
  (Call.runAll smallNaming [.stage ⟨"a", "/s", writer []⟩,
    .publish ⟨"a", "/s", "/t", writer [], false⟩] smallWorld).2

/-- To publish it there again is a valid call. -/
theorem publishValid_smallTree (mounts : MemoryTable) :
    PublishValid smallNaming ⟨"a", "/s", "/t", writer [], false⟩ ⟨smallTree, mounts⟩
      ⟨"/l/xa", "/d/m", "xa"⟩ ⟨"ext4", [], false⟩ smallTree where
  device := device_smallTree_a
  target := by decide +kernel
  made := by
    show Handler.makeTarget? smallTree "/t" = .ok smallTree
    decide +kernel
  directory := by decide +kernel
  plan := by decide +kernel

/-- While the volume is staged, that changes no mount. -/
theorem publish_again_mountedTwice :
    ((Call.publish ⟨"a", "/s", "/t", writer [], false⟩).run MemoryTable.system smallNaming
        mountedTwiceWorld).1 = .ok () ∧
      ((Call.publish ⟨"a", "/s", "/t", writer [], false⟩).run MemoryTable.system smallNaming
        mountedTwiceWorld).2.mounts = mountedTwiceWorld.mounts := by
  have htree : mountedTwiceWorld.tree = smallTree := by decide +kernel
  have hvalid := publishValid_smallTree mountedTwiceWorld.mounts
  rw [← htree] at hvalid
  have hm : mountedTwiceWorld.mounts.firstAt? "/d/m" "/t" =
      some ⟨"/d/m", "/d/m", "/t", "ext4", ["rw"]⟩ := by decide +kernel
  exact (publish_again_iff hvalid hm (by decide)).2 (by decide +kernel)

/-- Once somebody else has taken the staging mount away, the empty staging directory is bound on top
    of the volume. -/
theorem publish_not_repeatable :
    ¬ ∀ (naming : DeviceNaming) (r : PublishRequest) (w : MemoryWorld) (d : Device)
        (plan : MountPlan) (tree : FileTree) (m : MountEntry),
        PublishValid naming r w d plan tree → w.mounts.refused = [] →
        w.mounts.firstAt? d.node r.target = some m →
        m.carries (accessOption r.readOnly) = true →
        ((Call.publish r).run MemoryTable.system naming w).1 = .ok () ∧
          ((Call.publish r).run MemoryTable.system naming w).2.mounts = w.mounts := by
  intro h
  have hm : (mountedTwiceWorld.mounts.unmountTimes "/s" 1).firstAt? "/d/m" "/t" =
      some ⟨"/d/m", "/d/m", "/t", "ext4", ["rw"]⟩ := by decide +kernel
  obtain ⟨_, hsame⟩ := h _ _ _ _ _ _ _
    (publishValid_smallTree (mountedTwiceWorld.mounts.unmountTimes "/s" 1)) (by decide +kernel) hm
    (by decide)
  exact absurd hsame (by decide +kernel)

end VolumeNode
