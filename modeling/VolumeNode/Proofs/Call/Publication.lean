import VolumeNode.Proofs.Call.Run
import VolumeNode.Proofs.Mount.Stack

/-!
# Publishing over a table in memory

What a call that publishes a volume, or takes it off a target, does to a world whose mount table is
in memory.

* `PublishReady` and `UnpublishReady` say that a call passes its checks, and what they found. A call
  to publish has made its target by then, so it can fail and leave a new directory behind
  (`run_publish_of_not_ready`).
* A call to publish finds the volume published (`run_publish_of_published`), not staged
  (`run_publish_of_unmounted`), or binds (`run_publish_of_bind`).
* A call to unpublish counts the mounts of the device at the target, unmounts the target as often,
  and then removes the directory (`run_unpublish_of_removed`).
* `PublishEffect` and `UnpublishEffect` list all that can come of such a call (`publish_effect`,
  `unpublish_effect`).
-/

namespace VolumeNode

/-! ## 1. Binds and unmounts in memory -/

namespace MemoryTable

theorem bindTo_of_allowed {s : MemoryTable} (h : MountRequest.bindTo ∉ s.refused)
    (source target : String) (flags : List String) (t : FileTree) :
    system.bindTo source target flags t s =
      (.ok (), s.insert (s.bindEntry source target flags)) :=
  answer_of_allowed h _

theorem bindTo_of_refused {s : MemoryTable} (h : MountRequest.bindTo ∈ s.refused)
    (source target : String) (flags : List String) (t : FileTree) :
    system.bindTo source target flags t s =
      (.error (.toolFailed MountRequest.bindTo.command "injected failure"), s) :=
  answer_of_refused h _

end MemoryTable

namespace Handler

/-- Unmounts that are not refused all succeed, as long as something is mounted. -/
theorem run_unmountTimes_of_allowed {target : String} {n : Nat} {w : MemoryWorld}
    (hallowed : MountRequest.unmount ∉ w.mounts.refused)
    (hn : n ≤ (w.mounts.entriesAt target).length) :
    (unmountTimes target n).run.run MemoryTable.system w =
      (.ok (), { w with mounts := w.mounts.unmountTimes target n }) := by
  induction n generalizing w with
  | zero => rfl
  | succ n ih =>
    obtain ⟨m, hm⟩ := List.exists_mem_of_length_pos (show 0 < (w.mounts.entriesAt target).length by
      omega)
    obtain ⟨hmem, hpath⟩ := List.mem_filter.1 hm
    obtain ⟨rs, hpop⟩ := MemoryTable.exists_popAt hmem (by simpa using hpath)
    obtain ⟨x, _, htop, _⟩ := MemoryTable.exists_top_of_popAt hpop
    have hlen : (w.mounts.entriesAt target).length = (rs.filter (·.path == target)).length + 1 := by
      unfold MemoryTable.entriesAt
      rw [htop, List.length_append, List.length_singleton]
    unfold unmountTimes
    rw [run_ask_bind, run_bind, run_demand]
    simp only [Action.perform, World.setMounts, MemoryTable.unmount_of_popAt hpop hallowed]
    refine (@ih { w with mounts := { w.mounts with entries := rs } } hallowed ?_).trans ?_
    · show n ≤ (rs.filter (·.path == target)).length
      omega
    · unfold MemoryTable.unmountTimes
      rw [MemoryTable.popTimes_succ_of_popAt hpop]

/-- The first unmount is refused, so there is no second one. -/
theorem run_unmountTimes_of_refused {w : MemoryWorld}
    (hrefused : MountRequest.unmount ∈ w.mounts.refused) (target : String) (n : Nat) :
    ∃ e, (unmountTimes target (n + 1)).run.run MemoryTable.system w = (.error e, w) := by
  unfold unmountTimes
  rw [run_ask_bind, run_bind, run_demand]
  simp only [Action.perform, World.setMounts, MemoryTable.unmount_of_refused hrefused]
  exact ⟨_, rfl⟩

end Handler

/-! ## 2. Publishing -/

/-- A device with a mount at the target and one elsewhere is published at the target. -/
theorem Handler.published?_ne_none {mounts : List MountEntry} {target : String}
    {s m : MountEntry} (hs : s ∈ mounts) (hm : m ∈ mounts) (hspath : s.path ≠ target)
    (hmpath : m.path = target) : Handler.published? mounts target ≠ none := by
  have hlen : mounts.length > 1 := by
    rcases mounts with _ | ⟨x, _ | ⟨y, rest⟩⟩
    · exact absurd hs List.not_mem_nil
    · rw [List.mem_singleton] at hs hm
      exact absurd (hs ▸ hm ▸ hmpath) hspath
    · exact Nat.succ_lt_succ (Nat.succ_pos _)
  unfold Handler.published?
  rw [if_pos hlen]
  intro hnone
  exact List.find?_eq_none.1 hnone m hm (by simpa using hmpath)

/-- A device without a mount at the target is not published there. -/
theorem Handler.published?_eq_none {mounts : List MountEntry} {target : String}
    (h : ∀ m ∈ mounts, m.path ≠ target) : Handler.published? mounts target = none := by
  unfold Handler.published?
  split
  · rw [List.find?_eq_none]
    intro m hm
    simpa using h m hm
  · rfl

/-- A call to publish a volume passes its checks: they find this device and this plan, and leave
    this tree, in which something is at the target. -/
structure PublishReady (naming : DeviceNaming) (r : PublishRequest) (w : MemoryWorld) (d : Device)
    (plan : MountPlan) (tree : FileTree) : Prop where
  device : naming.device w.tree r.volume = .ok d
  target : Handler.targetCheck r.target = .ok ()
  made : Handler.makeTarget? w.tree r.target = .ok tree
  directory : Handler.directoryCheck tree r.staging = .ok ()
  plan : MountPlan.ofRequest r.capability = .ok plan
  readable : w.mounts.read = .ok w.mounts.entries

section Publish

variable {naming : DeviceNaming} {r : PublishRequest} {w : MemoryWorld} {d : Device}
  {plan : MountPlan} {tree : FileTree}

theorem run_publish (h : PublishReady naming r w d plan tree) :
    (Call.publish r).run MemoryTable.system naming w =
      (match Handler.published? (w.mounts.entriesOf d.node) r.target with
        | some entry =>
          Handler.require (entry.carries (accessOption r.readOnly))
            (.publishedOtherwise r.volume r.target)
        | none => do
          Handler.require (! (w.mounts.entriesOf d.node).isEmpty) (.notStaged r.volume r.staging)
          Handler.demand (← Handler.ask (.bindTo r.staging r.target
            (Handler.publishFlags plan.flags r.readOnly))) (.bindFailed r.volume r.target) :
        Handler Unit).run.run MemoryTable.system { w with tree } := by
  show (Handler.publish naming r).run.run MemoryTable.system w = _
  unfold Handler.publish
  simp only [Handler.run_bind, Handler.run_findDevice, h.device, Handler.run_requireTarget,
    h.target, Handler.run_makeTarget, h.made, Handler.run_requireDirectory, h.directory,
    Handler.run_ofExcept, h.plan, Handler.run_entriesOf, h.readable]
  rfl

/-- A call that fails a check changes nothing, unless it had made the target before. -/
theorem run_publish_of_not_ready (h : ¬ ∃ d plan tree, PublishReady naming r w d plan tree) :
    ∃ e tree, (Call.publish r).run MemoryTable.system naming w = (.error e, { w with tree }) ∧
      (tree = w.tree ∨ Handler.makeTarget? w.tree r.target = .ok tree) := by
  show ∃ e tree, (Handler.publish naming r).run.run MemoryTable.system w = _ ∧ _
  unfold Handler.publish
  simp only [Handler.run_bind, Handler.run_findDevice]
  cases hd : naming.device w.tree r.volume with
  | error e => exact ⟨e, w.tree, rfl, .inl rfl⟩
  | ok d =>
    simp only [Handler.run_requireTarget]
    cases ht : Handler.targetCheck r.target with
    | error e => exact ⟨e, w.tree, rfl, .inl rfl⟩
    | ok u =>
      simp only [Handler.run_makeTarget]
      cases hm : Handler.makeTarget? w.tree r.target with
      | error e => exact ⟨e, w.tree, rfl, .inl rfl⟩
      | ok tree =>
        -- from here on a failure leaves the target behind
        simp only [Handler.run_requireDirectory]
        cases hs : Handler.directoryCheck tree r.staging with
        | error e => exact ⟨e, tree, rfl, .inr rfl⟩
        | ok u =>
          simp only [Handler.run_ofExcept]
          cases hp : MountPlan.ofRequest r.capability with
          | error e => exact ⟨e, tree, rfl, .inr rfl⟩
          | ok plan =>
            simp only [Handler.run_entriesOf]
            cases hr : w.mounts.read with
            | error e => exact ⟨e, tree, rfl, .inr rfl⟩
            | ok rs =>
              obtain ⟨_, rfl⟩ := MemoryTable.read_eq_ok_iff.1 hr
              exact absurd ⟨d, plan, tree, hd, ht, hm, hs, hp, hr⟩ h

theorem run_publish_of_published (h : PublishReady naming r w d plan tree) {m : MountEntry}
    (hm : Handler.published? (w.mounts.entriesOf d.node) r.target = some m) :
    (Call.publish r).run MemoryTable.system naming w =
      (if m.carries (accessOption r.readOnly) then .ok ()
        else .error (.publishedOtherwise r.volume r.target), { w with tree }) := by
  rw [run_publish h, hm]
  exact Handler.run_require _ _ _ _

theorem run_publish_of_unmounted (h : PublishReady naming r w d plan tree)
    (hnil : w.mounts.entriesOf d.node = []) :
    (Call.publish r).run MemoryTable.system naming w =
      (.error (.notStaged r.volume r.staging), { w with tree }) := by
  rw [run_publish h, hnil]
  rfl

/-- A device that is mounted, but not at the target, has the staging directory bound there. -/
theorem run_publish_of_bind (h : PublishReady naming r w d plan tree)
    (hnone : Handler.published? (w.mounts.entriesOf d.node) r.target = none)
    (hne : w.mounts.entriesOf d.node ≠ []) :
    (Call.publish r).run MemoryTable.system naming w =
      ((MemoryTable.system.bindTo r.staging r.target (Handler.publishFlags plan.flags r.readOnly)
          tree w.mounts).1.mapError (.bindFailed r.volume r.target),
        ⟨tree, (MemoryTable.system.bindTo r.staging r.target
          (Handler.publishFlags plan.flags r.readOnly) tree w.mounts).2⟩) := by
  have hstaged : (! (w.mounts.entriesOf d.node).isEmpty) = true := by simpa using hne
  rw [run_publish h, hnone]
  dsimp only
  rw [Handler.run_bind, Handler.run_require, hstaged]
  simp only [if_true]
  rw [Handler.run_ask_bind, Handler.run_demand]
  rfl

end Publish

/-- All that can come of a call to publish a volume. -/
inductive PublishEffect (naming : DeviceNaming) (r : PublishRequest) (w : MemoryWorld) :
    Except Refusal Unit → MemoryWorld → Prop
  /-- It fails; the target may have been made. -/
  | failed (e : Refusal) (tree : FileTree)
      (made : tree = w.tree ∨ Handler.makeTarget? w.tree r.target = .ok tree) :
      PublishEffect naming r w (.error e) { w with tree }
  /-- The volume is published there already. -/
  | present {d : Device} {plan : MountPlan} {tree : FileTree} {m : MountEntry}
      (ready : PublishReady naming r w d plan tree)
      (published : Handler.published? (w.mounts.entriesOf d.node) r.target = some m)
      (fits : m.carries (accessOption r.readOnly) = true) :
      PublishEffect naming r w (.ok ()) { w with tree }
  /-- The staging directory is bound to the target. -/
  | bound {d : Device} {plan : MountPlan} {tree : FileTree}
      (ready : PublishReady naming r w d plan tree)
      (unpublished : Handler.published? (w.mounts.entriesOf d.node) r.target = none)
      (staged : w.mounts.entriesOf d.node ≠ []) :
      PublishEffect naming r w (.ok ())
        ⟨tree, w.mounts.insert (w.mounts.bindEntry r.staging r.target
          (Handler.publishFlags plan.flags r.readOnly))⟩

/-- Publishing takes no mount away. -/
theorem PublishEffect.subset {naming : DeviceNaming} {r : PublishRequest} {w w' : MemoryWorld}
    {outcome : Except Refusal Unit} (h : PublishEffect naming r w outcome w') :
    w.mounts.entries ⊆ w'.mounts.entries := by
  cases h with
  | failed e tree made => exact fun _ hm => hm
  | present ready published fits => exact fun _ hm => hm
  | bound ready unpublished staged => exact List.subset_append_left _ _

theorem PublishEffect.tree {naming : DeviceNaming} {r : PublishRequest} {w w' : MemoryWorld}
    {outcome : Except Refusal Unit} (h : PublishEffect naming r w outcome w') :
    w'.tree = w.tree ∨ Handler.makeTarget? w.tree r.target = .ok w'.tree := by
  cases h with
  | failed e tree made => exact made
  | present ready published fits => exact .inr ready.made
  | bound ready unpublished staged => exact .inr ready.made

theorem publish_effect (naming : DeviceNaming) (r : PublishRequest) (w : MemoryWorld) :
    PublishEffect naming r w ((Call.publish r).run MemoryTable.system naming w).1
      ((Call.publish r).run MemoryTable.system naming w).2 := by
  by_cases hready : ∃ d plan tree, PublishReady naming r w d plan tree
  · obtain ⟨d, plan, tree, h⟩ := hready
    cases hm : Handler.published? (w.mounts.entriesOf d.node) r.target with
    | some m =>
      rw [run_publish_of_published h hm]
      by_cases hc : m.carries (accessOption r.readOnly) = true
      · rw [if_pos hc]
        exact .present h hm hc
      · rw [if_neg hc]
        exact .failed _ tree (.inr h.made)
    | none =>
      by_cases hnil : w.mounts.entriesOf d.node = []
      · rw [run_publish_of_unmounted h hnil]
        exact .failed _ tree (.inr h.made)
      · rw [run_publish_of_bind h hm hnil]
        by_cases href : MountRequest.bindTo ∈ w.mounts.refused
        · rw [MemoryTable.bindTo_of_refused href]
          exact .failed _ tree (.inr h.made)
        · rw [MemoryTable.bindTo_of_allowed href]
          exact .bound h hm hnil
  · obtain ⟨e, tree, he, htree⟩ := run_publish_of_not_ready hready
    rw [he]
    exact .failed e tree htree

/-! ## 3. Unpublishing -/

/-- A call to take a volume off a target passes its checks. -/
structure UnpublishReady (naming : DeviceNaming) (r : UnpublishRequest) (w : MemoryWorld)
    (d : Device) : Prop where
  device : naming.device w.tree r.volume = .ok d
  target : Handler.targetCheck r.target = .ok ()
  readable : w.mounts.read = .ok w.mounts.entries

/-- An entry that mounts the device counts as one that shows it. -/
theorem Handler.shows_of_mountsNode {m : MountEntry} {d : Device}
    (h : m.mountsNode d.node = true) :
    Handler.shows m d = true := by
  rcases (m.mountsNode_iff _).1 h with h | ⟨_, h⟩
  · simp [Handler.shows, h]
  · simp [Handler.shows, h]

/-- How many mounts of a device are at a path. -/
def MemoryTable.countAt (s : MemoryTable) (path : String) (d : Device) : Nat :=
  (s.entriesAt path).countP (Handler.shows · d)

theorem MemoryTable.countAt_le (s : MemoryTable) (path : String) (d : Device) :
    s.countAt path d ≤ (s.entriesAt path).length :=
  List.countP_le_length

section Unpublish

variable {naming : DeviceNaming} {r : UnpublishRequest} {w : MemoryWorld} {d : Device}

theorem run_unpublish (h : UnpublishReady naming r w d) :
    (Call.unpublish r).run MemoryTable.system naming w =
      (if w.mounts.countAt r.target d = 0 then pure ()
        else do
          Handler.unmountTimes r.target (w.mounts.countAt r.target d)
          Handler.demand (← Handler.ask (.removeDirectory r.target))
            (.directoryNotRemoved r.target) : Handler Unit).run.run MemoryTable.system w := by
  show (Handler.unpublish naming r).run.run MemoryTable.system w = _
  unfold Handler.unpublish
  simp only [Handler.run_bind, Handler.run_findDevice, h.device, Handler.run_requireTarget,
    h.target, Handler.run_entriesAt, h.readable]
  rfl

theorem run_unpublish_of_not_ready (h : ¬ ∃ d, UnpublishReady naming r w d) :
    ∃ e, (Call.unpublish r).run MemoryTable.system naming w = (.error e, w) := by
  show ∃ e, (Handler.unpublish naming r).run.run MemoryTable.system w = _
  unfold Handler.unpublish
  simp only [Handler.run_bind, Handler.run_findDevice]
  cases hd : naming.device w.tree r.volume with
  | error e => exact ⟨e, rfl⟩
  | ok d =>
    simp only [Handler.run_requireTarget]
    cases ht : Handler.targetCheck r.target with
    | error e => exact ⟨e, rfl⟩
    | ok u =>
      simp only [Handler.run_entriesAt]
      cases hr : w.mounts.read with
      | error e => exact ⟨e, rfl⟩
      | ok rs =>
        obtain ⟨_, rfl⟩ := MemoryTable.read_eq_ok_iff.1 hr
        exact absurd ⟨d, hd, ht, hr⟩ h

theorem run_unpublish_of_none (h : UnpublishReady naming r w d)
    (hzero : w.mounts.countAt r.target d = 0) :
    (Call.unpublish r).run MemoryTable.system naming w = (.ok (), w) := by
  rw [run_unpublish h, if_pos hzero]
  rfl

/-- A device with mounts at the target has the target unmounted as often, whatever lies on top
    there. Then the directory is to go. -/
theorem run_unpublish_of_some (h : UnpublishReady naming r w d)
    (hsome : w.mounts.countAt r.target d ≠ 0)
    (hallowed : MountRequest.unmount ∉ w.mounts.refused) :
    (Call.unpublish r).run MemoryTable.system naming w =
      (do Handler.demand (← Handler.ask (.removeDirectory r.target))
            (.directoryNotRemoved r.target) : Handler Unit).run.run MemoryTable.system
        { w with mounts := w.mounts.unmountTimes r.target (w.mounts.countAt r.target d) } := by
  rw [run_unpublish h, if_neg hsome, Handler.run_bind,
    Handler.run_unmountTimes_of_allowed hallowed (MemoryTable.countAt_le _ _ _)]

theorem run_unpublish_of_removed (h : UnpublishReady naming r w d)
    (hsome : w.mounts.countAt r.target d ≠ 0)
    (hallowed : MountRequest.unmount ∉ w.mounts.refused) {tree : FileTree}
    (hremove : w.tree.removeDirectory r.target = .ok tree) :
    (Call.unpublish r).run MemoryTable.system naming w =
      (.ok (), ⟨tree, w.mounts.unmountTimes r.target (w.mounts.countAt r.target d)⟩) := by
  rw [run_unpublish_of_some h hsome hallowed, Handler.run_ask_bind, Handler.run_demand]
  simp only [Action.perform, hremove]
  rfl

theorem run_unpublish_of_stuck (h : UnpublishReady naming r w d)
    (hsome : w.mounts.countAt r.target d ≠ 0)
    (hallowed : MountRequest.unmount ∉ w.mounts.refused) {e : SystemError}
    (hremove : w.tree.removeDirectory r.target = .error e) :
    (Call.unpublish r).run MemoryTable.system naming w =
      (.error (.directoryNotRemoved r.target e),
        { w with mounts := w.mounts.unmountTimes r.target (w.mounts.countAt r.target d) }) := by
  rw [run_unpublish_of_some h hsome hallowed, Handler.run_ask_bind, Handler.run_demand]
  simp only [Action.perform, hremove]
  rfl

theorem run_unpublish_of_refused (h : UnpublishReady naming r w d)
    (hsome : w.mounts.countAt r.target d ≠ 0)
    (hrefused : MountRequest.unmount ∈ w.mounts.refused) :
    ∃ e, (Call.unpublish r).run MemoryTable.system naming w = (.error e, w) := by
  obtain ⟨n, hn⟩ := Nat.exists_eq_succ_of_ne_zero hsome
  obtain ⟨e, he⟩ := Handler.run_unmountTimes_of_refused hrefused r.target n
  rw [run_unpublish h, if_neg hsome, Handler.run_bind, hn, he]
  exact ⟨e, rfl⟩

end Unpublish

/-- All that can come of a call to take a volume off a target. -/
inductive UnpublishEffect (naming : DeviceNaming) (r : UnpublishRequest) (w : MemoryWorld) :
    Except Refusal Unit → MemoryWorld → Prop
  /-- It fails and changes nothing. -/
  | failed (e : Refusal) : UnpublishEffect naming r w (.error e) w
  /-- The device is not mounted there. -/
  | absent {d : Device} (ready : UnpublishReady naming r w d)
      (none : w.mounts.countAt r.target d = 0) : UnpublishEffect naming r w (.ok ()) w
  /-- The target was unmounted, but its directory cannot be removed. -/
  | stuck {d : Device} {e : SystemError} (ready : UnpublishReady naming r w d)
      (some : w.mounts.countAt r.target d ≠ 0)
      (kept : w.tree.removeDirectory r.target = .error e) :
      UnpublishEffect naming r w (.error (.directoryNotRemoved r.target e))
        { w with mounts := w.mounts.unmountTimes r.target (w.mounts.countAt r.target d) }
  /-- The target was unmounted and its directory removed. -/
  | unmounted {d : Device} {tree : FileTree} (ready : UnpublishReady naming r w d)
      (some : w.mounts.countAt r.target d ≠ 0)
      (removed : w.tree.removeDirectory r.target = .ok tree) :
      UnpublishEffect naming r w (.ok ())
        ⟨tree, w.mounts.unmountTimes r.target (w.mounts.countAt r.target d)⟩

/-- Unpublishing is so many unmounts of the target. -/
theorem UnpublishEffect.entries {naming : DeviceNaming} {r : UnpublishRequest}
    {w w' : MemoryWorld} {outcome : Except Refusal Unit}
    (h : UnpublishEffect naming r w outcome w') :
    ∃ n, w'.mounts.entries = MemoryTable.popTimes r.target n w.mounts.entries := by
  cases h with
  | failed e => exact ⟨0, rfl⟩
  | absent ready none => exact ⟨0, rfl⟩
  | stuck ready some kept => exact ⟨_, rfl⟩
  | unmounted ready some removed => exact ⟨_, rfl⟩

theorem UnpublishEffect.tree {naming : DeviceNaming} {r : UnpublishRequest}
    {w w' : MemoryWorld} {outcome : Except Refusal Unit}
    (h : UnpublishEffect naming r w outcome w') :
    w'.tree = w.tree ∨ w.tree.removeDirectory r.target = .ok w'.tree := by
  cases h with
  | unmounted ready some removed => exact .inr removed
  | _ => exact .inl rfl

theorem unpublish_effect (naming : DeviceNaming) (r : UnpublishRequest) (w : MemoryWorld) :
    UnpublishEffect naming r w ((Call.unpublish r).run MemoryTable.system naming w).1
      ((Call.unpublish r).run MemoryTable.system naming w).2 := by
  by_cases hready : ∃ d, UnpublishReady naming r w d
  · obtain ⟨d, h⟩ := hready
    by_cases hzero : w.mounts.countAt r.target d = 0
    · rw [run_unpublish_of_none h hzero]
      exact .absent h hzero
    · by_cases href : MountRequest.unmount ∈ w.mounts.refused
      · obtain ⟨e, he⟩ := run_unpublish_of_refused h hzero href
        rw [he]
        exact .failed e
      · cases hremove : w.tree.removeDirectory r.target with
        | ok tree =>
          rw [run_unpublish_of_removed h hzero href hremove]
          exact .unmounted h hzero hremove
        | error e =>
          rw [run_unpublish_of_stuck h hzero href hremove]
          exact .stuck h hzero hremove
  · obtain ⟨e, he⟩ := run_unpublish_of_not_ready hready
    rw [he]
    exact .failed e

end VolumeNode
