import VolumeNode.Proofs.Call.Actions
import VolumeNode.Proofs.Call.Course

/-!
# How often devices are formatted

A table in memory notes the filesystem of each device and how often the device was formatted.

* A `TableEvent` is anything that happens to a table and the file tree below it: a call of the
  service, a request to the table itself, and what others may do to either. `runEvents` is a course
  of events.
* `FormatStep` is what one action does to what is known about filesystems, `FormatChange` what a row
  of steps does to a device (`format_step`, `formatChange_run`).
* `StagesUnmounted` are the only calls that may format a device
  (`Call.stagesUnmounted_or_sameFormat`).
* **`formatted_once`**: from an empty table on, whatever happens, a device is formatted once at
  most, and never over a filesystem.
-/

namespace VolumeNode

/-! ## 1. Events -/

/-- Something that happens to a table in memory, or to the file tree. -/
inductive TableEvent where
  | call (naming : DeviceNaming) (r : Call)
  /-- A request that is no part of a call. -/
  | request (a : Action)
  /-- Somebody else has made a filesystem on a device. -/
  | setFilesystem (node fsType : String)
  /-- Somebody else has mounted something. -/
  | insert (e : MountEntry)
  | refuse (kind : MountRequest)
  | allowAll
  /-- Somebody else has changed the file tree. -/
  | outside (tree : FileTree)
deriving DecidableEq

namespace TableEvent

/-- The world after an event. -/
def run (w : MemoryWorld) : TableEvent → MemoryWorld
  | call naming r => (r.run MemoryTable.system naming w).2
  | request a => (a.perform MemoryTable.system w).2
  | setFilesystem node fsType => { w with mounts := w.mounts.setFilesystem node fsType }
  | insert e => { w with mounts := w.mounts.insert e }
  | refuse kind => { w with mounts := w.mounts.refuse kind }
  | allowAll => { w with mounts := w.mounts.allowAll }
  | outside tree => { w with tree }

/-- The actions of an event, each with the world that it is taken in. -/
def steps (w : MemoryWorld) : TableEvent → List (MemoryWorld × Action)
  | call naming r => (r.procedure naming).steps MemoryTable.system w
  | request a => [(w, a)]
  | _ => []

end TableEvent

/-- The world after a course of events. -/
def runEvents (events : List TableEvent) (w : MemoryWorld) : MemoryWorld :=
  events.foldl TableEvent.run w

/-! ## 2. One action -/

/-- What an action does to what a table knows about filesystems. -/
inductive FormatStep (w : MemoryWorld) (a : Action) (s : MemoryTable) : Prop
  | kept (filesystems : s.filesystems = w.mounts.filesystems)
      (formats : s.formats = w.mounts.formats)
  /-- The action formats the device behind its source, which has no filesystem. -/
  | formatted {source target fsType node : String} {flags : List String}
      (request : a = .mountFormatted source target fsType flags)
      (resolved : MemoryTable.nodeOf w.tree source = node)
      (blank : w.mounts.filesystem? node = none)
      (filesystems : s.filesystems = (node, fsType) :: w.mounts.filesystems)
      (formats : s.formats = (node, w.mounts.timesFormatted node + 1) :: w.mounts.formats)

/-- Only an unmount takes entries away, and it takes nothing else. -/
theorem MemoryTable.unmountAt_known (s : MemoryTable) (target : String) :
    (s.unmountAt target).2.filesystems = s.filesystems ∧
      (s.unmountAt target).2.formats = s.formats := by
  unfold unmountAt
  cases popAt target s.entries <;> exact ⟨rfl, rfl⟩

theorem format_step (w : MemoryWorld) (a : Action) :
    FormatStep w a (a.perform MemoryTable.system w).2.mounts := by
  -- a refused request changes nothing, so the answer decides unless it is a refusal
  have hanswer : ∀ (kind : MountRequest) (reply : Except MountFailure Unit × MemoryTable),
      FormatStep w a reply.2 → FormatStep w a (w.mounts.answer kind reply).2 := by
    intro kind reply hreply
    unfold MemoryTable.answer
    split
    · exact .kept rfl rfl
    · exact hreply
  cases a with
  | findDevice | stat | lstat | makeDirectory | removeDirectory | entries =>
    rw [MemoryTable.mounts_perform w rfl]
    exact .kept rfl rfl
  | mount source target fsType flags => exact hanswer _ _ (.kept rfl rfl)
  | bindTo source target flags => exact hanswer _ _ (.kept rfl rfl)
  | unmount target =>
    obtain ⟨hfilesystems, hformats⟩ := w.mounts.unmountAt_known target
    exact hanswer _ _ (.kept hfilesystems hformats)
  | mountFormatted source target fsType flags =>
    refine hanswer _ _ ?_
    show FormatStep w _ ((w.mounts.formatIfBlank _ fsType).insert _)
    unfold MemoryTable.formatIfBlank
    cases hblank : w.mounts.filesystem? (MemoryTable.nodeOf w.tree source) with
    | some fs => exact .kept rfl rfl
    | none => exact .formatted rfl rfl hblank rfl rfl

/-! ## 3. A row of actions -/

/-- Two tables know the same of a device. -/
def SameFormat (node : String) (s s' : MemoryTable) : Prop :=
  s'.filesystem? node = s.filesystem? node ∧ s'.timesFormatted node = s.timesFormatted node

/-- What a row of steps does to what a table knows about one device. -/
inductive FormatChange (node : String) (steps : List (MemoryWorld × Action))
    (s s' : MemoryTable) : Prop
  | kept (same : SameFormat node s s')
  /-- One of the steps formats the device, which had no filesystem until then. -/
  | formatted {w : MemoryWorld} {source target fsType : String} {flags : List String}
      (step : (w, .mountFormatted source target fsType flags) ∈ steps)
      (resolved : MemoryTable.nodeOf w.tree source = node)
      (blank : w.mounts.filesystem? node = none) (before : s.filesystem? node = none)
      (after : s'.filesystem? node = some fsType)
      (times : s'.timesFormatted node = s.timesFormatted node + 1)

/-- Each step either leaves a device alone or formats it. -/
theorem FormatStep.change {w : MemoryWorld} {a : Action} {s : MemoryTable} (h : FormatStep w a s)
    (node : String) : FormatChange node [(w, a)] w.mounts s := by
  cases h with
  | kept filesystems formats =>
    refine .kept ⟨?_, ?_⟩
    · unfold MemoryTable.filesystem?
      rw [filesystems]
    · unfold MemoryTable.timesFormatted
      rw [formats]
  | @formatted source target fsType known flags request resolved blank filesystems formats =>
    by_cases hnode : node = known
    · subst hnode
      refine .formatted (List.mem_singleton.2 (by rw [request])) resolved blank blank ?_ ?_
      · unfold MemoryTable.filesystem?
        rw [filesystems, List.lookup_cons_self]
      · show (s.formats.lookup node).getD 0 = _
        rw [formats, List.lookup_cons_self]
        rfl
    · have hother : (node == known) = false := beq_eq_false_iff_ne.2 hnode
      refine .kept ⟨?_, ?_⟩
      · unfold MemoryTable.filesystem?
        rw [filesystems, List.lookup_cons, hother]
      · unfold MemoryTable.timesFormatted
        rw [formats, List.lookup_cons, hother]

/-- Of two rows of steps only one can format a device: there is a filesystem from then on. -/
theorem FormatChange.append {node : String} {before after : List (MemoryWorld × Action)}
    {s s₁ s' : MemoryTable} (h : FormatChange node before s s₁)
    (h' : FormatChange node after s₁ s') : FormatChange node (before ++ after) s s' := by
  cases h with
  | kept same =>
    obtain ⟨hfilesystem, htimes⟩ := same
    cases h' with
    | kept same' => exact .kept ⟨same'.1.trans hfilesystem, same'.2.trans htimes⟩
    | formatted step resolved blank hbefore hafter times' =>
      exact .formatted (List.mem_append_right _ step) resolved blank (hfilesystem ▸ hbefore) hafter
        (htimes ▸ times')
  | formatted step resolved blank hbefore hafter times =>
    cases h' with
    | kept same' =>
      exact .formatted (List.mem_append_left _ step) resolved blank hbefore
        (same'.1.trans hafter) (same'.2.trans times)
    | formatted step' resolved' blank' hbefore' hafter' times' =>
      rw [hafter] at hbefore'
      cases hbefore'

/-- **A course of actions formats a device once at most.** -/
theorem formatChange_run {α : Type} (p : Procedure α) (w : MemoryWorld) (node : String) :
    FormatChange node (p.steps MemoryTable.system w) w.mounts
      (p.run MemoryTable.system w).2.mounts := by
  induction p generalizing w with
  | done a => exact .kept ⟨rfl, rfl⟩
  | act a next ih => exact ((format_step w a).change node).append (ih _ _)

/-! ## 4. Calls that format -/

/-- The call stages a volume for writing, and its device, which has this node, is not mounted. -/
def Call.StagesUnmounted (naming : DeviceNaming) (w : MemoryWorld) (node : String) (r : Call) :
    Prop :=
  ∃ q c d, r = .stage q ∧ q.capability = some c ∧ c.accessMode.readOnly? = some false ∧
    naming.device w.tree q.volume = .ok d ∧ d.node = node ∧
    ∀ e ∈ w.mounts.entries, e.mountsNode node = false

/-- A capability with a plan that writes allows writing. -/
theorem writes_of_ofRequest {capability : Option Capability} {plan : MountPlan}
    (hplan : MountPlan.ofRequest capability = .ok plan) (hwrites : plan.readOnly = false) :
    ∃ c, capability = some c ∧ c.accessMode.readOnly? = some false := by
  cases capability with
  | none => cases hplan
  | some c =>
    refine ⟨c, rfl, ?_⟩
    simp only [MountPlan.ofRequest, MountPlan.ofCapability] at hplan
    split at hplan
    · split at hplan
      · cases hplan
      · cases hmode : c.accessMode.readOnly? with
        | none =>
          rw [hmode] at hplan
          cases hplan
        | some readOnly =>
          rw [hmode] at hplan
          cases hplan
          exact congrArg some hwrites
    · cases hplan

/-- A mount that a plan asks for changes what is known about its own device only. -/
theorem MemoryTable.sameFormat_mountBy {s : MemoryTable} {plan : MountPlan}
    {node other staging : String} (h : plan.readOnly = true ∨ other ≠ node) :
    SameFormat other s (s.mountBy plan node staging) := by
  unfold mountBy
  by_cases hro : plan.readOnly = true
  · rw [if_pos hro]
    exact ⟨rfl, rfl⟩
  · have hother : (other == node) = false := beq_eq_false_iff_ne.2 (h.resolve_left hro)
    rw [if_neg hro]
    unfold formatIfBlank
    cases s.filesystem? node with
    | some fsType => exact ⟨rfl, rfl⟩
    | none => simp [SameFormat, insert, filesystem?, timesFormatted, List.lookup_cons, hother]

theorem StageEffect.formats {naming : TextNaming} {q : StageRequest} {w w' : MemoryWorld}
    {outcome : Except Refusal Unit} (h : StageEffect naming q w outcome w') (node : String) :
    (Call.stage q).StagesUnmounted naming w node ∨ SameFormat node w.mounts w'.mounts := by
  cases h with
  | failed e => exact .inr ⟨rfl, rfl⟩
  | present ready mounted fits => exact .inr ⟨rfl, rfl⟩
  | @mounted d plan ready unmounted =>
    rw [MemoryTable.nodeOf_link ready.device]
    by_cases hsame : plan.readOnly = true ∨ node ≠ d.node
    · exact .inr (MemoryTable.sameFormat_mountBy hsame)
    · obtain ⟨hwrites, hnode⟩ := not_or.1 hsame
      obtain ⟨c, hc, hmode⟩ := writes_of_ofRequest ready.plan (eq_false_of_ne_true hwrites)
      have hnode : d.node = node := (not_not.1 hnode).symm
      refine .inl ⟨q, c, d, rfl, hc, hmode, ready.device, hnode, fun e he => ?_⟩
      have hnone := List.filter_eq_nil_iff.1 unmounted e he
      rw [hnode] at hnone
      exact eq_false_of_ne_true hnone

theorem UnstageEffect.sameFormat {naming : DeviceNaming} {q : UnstageRequest} {w w' : MemoryWorld}
    {outcome : Except Refusal Unit} (h : UnstageEffect naming q w outcome w') (node : String) :
    SameFormat node w.mounts w'.mounts := by
  cases h <;> exact ⟨rfl, rfl⟩

theorem PublishEffect.sameFormat {naming : DeviceNaming} {q : PublishRequest} {w w' : MemoryWorld}
    {outcome : Except Refusal Unit} (h : PublishEffect naming q w outcome w') (node : String) :
    SameFormat node w.mounts w'.mounts := by
  cases h <;> exact ⟨rfl, rfl⟩

theorem UnpublishEffect.sameFormat {naming : DeviceNaming} {q : UnpublishRequest}
    {w w' : MemoryWorld} {outcome : Except Refusal Unit}
    (h : UnpublishEffect naming q w outcome w') (node : String) :
    SameFormat node w.mounts w'.mounts := by
  cases h <;> exact ⟨rfl, rfl⟩

/-- **No other call changes what is known about a device.** -/
theorem Call.stagesUnmounted_or_sameFormat (naming : TextNaming) (r : Call) (w : MemoryWorld)
    (node : String) : r.StagesUnmounted naming w node ∨
      SameFormat node w.mounts (r.run MemoryTable.system naming w).2.mounts := by
  cases r with
  | stage q => exact (stage_effect naming q w).formats node
  | unstage q => exact .inr ((unstage_effect naming q w).sameFormat node)
  | publish q => exact .inr ((publish_effect naming q w).sameFormat node)
  | unpublish q => exact .inr ((unpublish_effect naming q w).sameFormat node)

/-! ## 5. Courses of events -/

/-- What an event does to what is known about a device: somebody else sets its filesystem, or the
    steps of the event decide. -/
theorem TableEvent.change (w : MemoryWorld) (event : TableEvent) (node : String) :
    (∃ fsType, event = .setFilesystem node fsType) ∨
      FormatChange node (event.steps w) w.mounts (event.run w).mounts := by
  cases event with
  | call naming r => exact .inr (formatChange_run _ w node)
  | request a => exact .inr ((format_step w a).change node)
  | setFilesystem other fsType =>
    by_cases hnode : node = other
    · exact .inl ⟨fsType, by rw [hnode]⟩
    · have hother : (node == other) = false := beq_eq_false_iff_ne.2 hnode
      refine .inr (.kept ⟨?_, rfl⟩)
      show List.lookup node ((other, fsType) :: _) = _
      rw [List.lookup_cons, hother]
      rfl
  | insert | refuse | allowAll | outside => exact .inr (.kept ⟨rfl, rfl⟩)

/-- A device was formatted once at most, and it has a filesystem if it was. -/
structure FormattedOnce (s : MemoryTable) (node : String) : Prop where
  times : s.timesFormatted node ≤ 1
  blank : s.filesystem? node = none → s.timesFormatted node = 0

theorem FormattedOnce.event {w : MemoryWorld} {node : String} (h : FormattedOnce w.mounts node)
    (event : TableEvent) : FormattedOnce (event.run w).mounts node := by
  rcases event.change w node with ⟨fsType, rfl⟩ | hchange
  · refine ⟨h.times, fun hnone => ?_⟩
    have hsome : ((TableEvent.setFilesystem node fsType).run w).mounts.filesystem? node =
        some fsType := List.lookup_cons_self
    rw [hsome] at hnone
    cases hnone
  · cases hchange with
    | kept same =>
      obtain ⟨hfilesystem, htimes⟩ := same
      exact ⟨htimes ▸ h.times, fun hnone => htimes ▸ h.blank (hfilesystem ▸ hnone)⟩
    | formatted step resolved blank before after times =>
      have hzero := h.blank before
      refine ⟨by omega, fun hnone => ?_⟩
      rw [after] at hnone
      cases hnone

theorem FormattedOnce.run {w : MemoryWorld} {node : String} (h : FormattedOnce w.mounts node)
    (events : List TableEvent) : FormattedOnce (runEvents events w).mounts node := by
  induction events generalizing w with
  | nil => exact h
  | cons event events ih => exact ih (h.event event)

/-- What an event may do to a device. -/
structure FormatsSafely (w : MemoryWorld) (event : TableEvent) (node : String) : Prop where
  /-- No count gets smaller. -/
  grows : w.mounts.timesFormatted node ≤ (event.run w).mounts.timesFormatted node
  /-- A count that changes becomes one, and one of the steps was a mount with formatting that found
      no filesystem on the device behind its source. -/
  formats : (event.run w).mounts.timesFormatted node ≠ w.mounts.timesFormatted node →
    w.mounts.timesFormatted node = 0 ∧ (event.run w).mounts.timesFormatted node = 1 ∧
      ∃ v source target fsType flags,
        (v, .mountFormatted source target fsType flags) ∈ event.steps w ∧
          MemoryTable.nodeOf v.tree source = node ∧ v.mounts.filesystem? node = none
  /-- A filesystem stays unless somebody else sets another one. -/
  keeps : ∀ fsType, w.mounts.filesystem? node = some fsType →
    (event.run w).mounts.filesystem? node ≠ some fsType → ∃ other, event = .setFilesystem node other
  /-- A call changes nothing else, as far as the texts of links lead to their devices. -/
  calls : ∀ (naming : TextNaming) r, event = .call naming r →
    ((event.run w).mounts.filesystem? node ≠ w.mounts.filesystem? node ∨
      (event.run w).mounts.timesFormatted node ≠ w.mounts.timesFormatted node) →
    r.StagesUnmounted naming w node

theorem FormattedOnce.safely {w : MemoryWorld} {node : String} (h : FormattedOnce w.mounts node)
    (event : TableEvent) : FormatsSafely w event node := by
  have hcalls : ∀ (naming : TextNaming) r, event = .call naming r →
      ((event.run w).mounts.filesystem? node ≠ w.mounts.filesystem? node ∨
        (event.run w).mounts.timesFormatted node ≠ w.mounts.timesFormatted node) →
      r.StagesUnmounted naming w node := by
    intro naming r hevent hchanged
    subst hevent
    refine (r.stagesUnmounted_or_sameFormat naming w node).resolve_right fun hsame => ?_
    exact hchanged.elim (· hsame.1) (· hsame.2)
  rcases event.change w node with ⟨other, rfl⟩ | hchange
  · exact ⟨Nat.le_refl _, fun hne => absurd rfl hne, fun _ _ _ => ⟨other, rfl⟩, hcalls⟩
  · cases hchange with
    | kept same =>
      obtain ⟨hfilesystem, htimes⟩ := same
      have hkeeps : ∀ fsType, w.mounts.filesystem? node = some fsType →
          (event.run w).mounts.filesystem? node = some fsType := fun _ => hfilesystem.trans
      refine ⟨htimes ▸ Nat.le_refl _, fun hne => absurd htimes hne, ?_, hcalls⟩
      exact fun fsType hfs hne => absurd (hkeeps fsType hfs) hne
    | @formatted v source target fsType flags step resolved blank before after times =>
      have hzero := h.blank before
      refine ⟨by omega, fun _ => ⟨hzero, by omega, ?_⟩, fun fs hfs _ => ?_, hcalls⟩
      · exact ⟨v, source, target, fsType, flags, step, resolved, blank⟩
      · rw [before] at hfs
        cases hfs

/-- **A device is formatted once at most, and never over a filesystem.** This holds in every world
    that events lead to from an empty table, and of whatever happens next. -/
theorem formatted_once (tree : FileTree) (events : List TableEvent) (node : String) :
    ((runEvents events ⟨tree, .empty⟩).mounts.timesFormatted node = 0 ∨
      (runEvents events ⟨tree, .empty⟩).mounts.timesFormatted node = 1) ∧
    ∀ event, FormatsSafely (runEvents events ⟨tree, .empty⟩) event node := by
  have hstart : FormattedOnce (⟨tree, .empty⟩ : MemoryWorld).mounts node :=
    ⟨Nat.zero_le 1, fun _ => rfl⟩
  have hrun := hstart.run events
  have htimes := hrun.times
  exact ⟨by omega, hrun.safely⟩

/-- A device that is staged for writing a second time keeps the filesystem it has. -/
example : (runEvents [.call smallNaming (.stage ⟨"a", "/s", writer []⟩),
    .call smallNaming (.unstage ⟨"a", "/s"⟩), .call smallNaming (.stage ⟨"a", "/s", writer []⟩)]
    smallWorld).mounts.timesFormatted "/d/m" = 1 := by
  decide +kernel

end VolumeNode
