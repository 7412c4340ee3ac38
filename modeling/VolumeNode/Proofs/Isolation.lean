import VolumeNode.Proofs.Call.Course

/-!
# What calls for one volume do to others

A call picks the mounts of its own device from the table, but it unmounts and binds by path, and
takes what lies on top there. Where volumes share a path, the two need not be the same.

* `Isolated`: a call leaves the mounts of all other attached volumes as they are, and once it has
  taken a volume off a path, nothing of its device is left there.
* `Call.handled` are the entries that a call takes away or binds, `Call.left` are those that stay
  below the ones it takes away.
* **`isolated_iff`**: a call that changes the table is isolated exactly if it handles no entry of
  another attached volume and, having succeeded, has left none of its own device.
* `not_isolated_stacked` is a course of calls that does otherwise.

The directory of links is a text (`TextNaming`), so a device that is mounted by the text of its link
is entered under its own node.
-/

namespace VolumeNode

/-! ## 1. Isolation -/

/-- The path that a call takes its volume off. -/
def Call.released : Call → Option String
  | .unstage r => some r.staging
  | .unpublish r => some r.target
  | .stage _ | .publish _ => none

/-- A call for a volume with this device has this result in a world, and the other volumes are none
    the worse for it. -/
structure Isolated (naming : DeviceNaming) (w : MemoryWorld) (r : Call) (d : Device)
    (result : Except Refusal Unit × MemoryWorld) : Prop where
  /-- The mounts of every other device stay, in their order. -/
  others : ∀ v d', naming.device w.tree v = .ok d' → d'.node ≠ d.node →
    result.2.mounts.entriesOf d'.node = w.mounts.entriesOf d'.node
  /-- A path that the volume was taken off has nothing of its device left. -/
  released : result.1 = .ok () → ∀ p, r.released = some p →
    ∀ m ∈ result.2.mounts.entriesAt p, m.mountsNode d.node = false

/-- An entry mounts the device of some attached volume, and not this device. -/
def Foreign (naming : DeviceNaming) (t : FileTree) (d : Device) (m : MountEntry) : Prop :=
  ∃ v d', naming.device t v = .ok d' ∧ d'.node ≠ d.node ∧ m.mountsNode d'.node = true

/-- The topmost entries that a call works on, if it changes the table: those that it takes away, or
    the one that it binds. -/
def Call.handled (s : MemoryTable) (d : Device) : Call → List MountEntry
  | .stage _ => []
  | .unstage r => (s.entriesAt r.staging).rtake 1
  | .publish r => (s.entriesAt r.staging).rtake 1
  | .unpublish r => (s.entriesAt r.target).rtake (s.countAt r.target d)

/-- The entries below those that a call takes away. -/
def Call.left (s : MemoryTable) (d : Device) : Call → List MountEntry
  | .stage _ | .publish _ => []
  | .unstage r => (s.entriesAt r.staging).rdrop 1
  | .unpublish r => (s.entriesAt r.target).rdrop (s.countAt r.target d)

/-! ## 2. One effect -/

section Effects

variable {naming : DeviceNaming} {w : MemoryWorld} {d : Device}

/-- A call that changes no entry and releases no path that its device is mounted at. -/
theorem Isolated.of_unchanged {r : Call} {outcome : Except Refusal Unit} {w' : MemoryWorld}
    (hsame : w'.mounts.entries = w.mounts.entries)
    (hfree : outcome = .ok () → ∀ p, r.released = some p →
      ∀ m ∈ w.mounts.entriesAt p, m.mountsNode d.node = false) :
    Isolated naming w r d (outcome, w') where
  others := by
    intro v d' _ _
    unfold MemoryTable.entriesOf
    rw [hsame]
  released := by
    intro hok p hp m hm
    unfold MemoryTable.entriesAt at hm
    rw [hsame] at hm
    exact hfree hok p hp m hm

/-- The others lose nothing by unmounts of a path exactly if what is taken away is none of
    theirs. -/
theorem others_unmountTimes_iff (path : String) (n : Nat) :
    (∀ v d', naming.device w.tree v = .ok d' → d'.node ≠ d.node →
      (w.mounts.unmountTimes path n).entriesOf d'.node = w.mounts.entriesOf d'.node) ↔
      ∀ m ∈ (w.mounts.entriesAt path).rtake n, ¬ Foreign naming w.tree d m := by
  constructor
  · intro h m hm ⟨v, d', hd', hne, hnode⟩
    have hfalse := (MemoryTable.filter_popTimes_eq_iff path (·.mountsNode d'.node) n
      w.mounts.entries).1 (h v d' hd' hne) m hm
    rw [hnode] at hfalse
    cases hfalse
  · intro h v d' hd' hne
    refine (MemoryTable.filter_popTimes_eq_iff path (·.mountsNode d'.node) n
      w.mounts.entries).2 ?_
    intro m hm
    cases hnode : m.mountsNode d'.node with
    | false => rfl
    | true => exact absurd ⟨v, d', hd', hne, hnode⟩ (h m hm)

/-- A bind shows what lies on top at its source. -/
theorem mountsNode_bindEntry {node : String} (hnode : node.toList.head? = some '/')
    (s : MemoryTable) (source target : String) (flags : List String) :
    (s.bindEntry source target flags).mountsNode node = true ↔
      ∃ m ∈ (s.entriesAt source).rtake 1, m.mountsNode node = true := by
  unfold MemoryTable.bindEntry
  rcases List.eq_nil_or_concat (s.entriesAt source) with hat | ⟨below, top, hat⟩
  · -- without an entry at the source the bind names no node
    rw [hat]
    have hne : node ≠ "none" := by
      rintro rfl
      exact absurd hnode (by decide)
    simp [MountEntry.mountsNode, MountEntry.placeholders, hne.symm, List.rtake_nil]
  · rw [hat, List.concat_eq_append, List.getLast?_concat, List.rtake_concat_succ]
    simp [MountEntry.mountsNode, List.rtake_zero]

/-- A call that unmounts the path it releases. -/
theorem isolated_unmountTimes_iff {r : Call} {path : String} {n : Nat}
    {outcome : Except Refusal Unit} {w' : MemoryWorld} (hreleased : r.released = some path)
    (hw' : w'.mounts = w.mounts.unmountTimes path n) :
    Isolated naming w r d (outcome, w') ↔
      (∀ m ∈ (w.mounts.entriesAt path).rtake n, ¬ Foreign naming w.tree d m) ∧
        (outcome = .ok () →
          ∀ m ∈ (w.mounts.entriesAt path).rdrop n, m.mountsNode d.node = false) := by
  rw [← others_unmountTimes_iff, ← MemoryTable.entriesAt_unmountTimes]
  constructor
  · intro h
    refine ⟨?_, fun hok => ?_⟩
    · rw [← hw']
      exact h.others
    · rw [← hw']
      exact h.released hok path hreleased
  · intro ⟨hothers, hfree⟩
    rw [← hw'] at hothers hfree
    refine ⟨hothers, fun hok p hp => ?_⟩
    rw [hreleased] at hp
    cases hp
    exact hfree hok

/-- A call that binds its staging directory. -/
theorem isolated_bind_iff {r : Call} {source target : String} {flags : List String}
    {outcome : Except Refusal Unit} {w' : MemoryWorld} (hreleased : r.released = none)
    (hw' : w'.mounts = w.mounts.insert (w.mounts.bindEntry source target flags)) :
    Isolated naming w r d (outcome, w') ↔
      ∀ m ∈ (w.mounts.entriesAt source).rtake 1, ¬ Foreign naming w.tree d m := by
  constructor
  · intro h m hm ⟨v, d', hd', hne, hnode⟩
    have hothers := h.others v d' hd' hne
    rw [hw', MemoryTable.entriesOf_insert,
      if_pos ((mountsNode_bindEntry (DeviceNaming.head?_node hd') ..).2 ⟨m, hm, hnode⟩)] at hothers
    exact absurd hothers (by simp)
  · intro h
    refine ⟨fun v d' hd' hne => ?_, fun _ p hp => ?_⟩
    · rw [hw', MemoryTable.entriesOf_insert, if_neg, List.append_nil]
      intro hbind
      obtain ⟨m, hm, hnode⟩ := (mountsNode_bindEntry (DeviceNaming.head?_node hd') ..).1 hbind
      exact h m hm ⟨v, d', hd', hne, hnode⟩
    · rw [hreleased] at hp
      cases hp

end Effects

/-! ## 3. The four calls -/

/-- As far as a call changes the table, it handles no entry of another volume and, having succeeded,
    leaves none of its own device. -/
def Call.Proper (naming : DeviceNaming) (w : MemoryWorld) (r : Call) (d : Device)
    (result : Except Refusal Unit × MemoryWorld) : Prop :=
  result.2.mounts.entries ≠ w.mounts.entries →
    (∀ m ∈ r.handled w.mounts d, ¬ Foreign naming w.tree d m) ∧
      (result.1 = .ok () → ∀ m ∈ r.left w.mounts d, m.mountsNode d.node = false)

section Calls

variable {naming : DeviceNaming} {w w' : MemoryWorld} {d : Device} {r : Call}
  {outcome : Except Refusal Unit}

theorem isolated_iff_of_unchanged (hsame : w'.mounts.entries = w.mounts.entries)
    (hfree : outcome = .ok () → ∀ p, r.released = some p →
      ∀ m ∈ w.mounts.entriesAt p, m.mountsNode d.node = false) :
    Isolated naming w r d (outcome, w') ↔ r.Proper naming w d (outcome, w') := by
  constructor
  · intro _ hne
    exact absurd hsame hne
  · intro _
    exact .of_unchanged hsame hfree

theorem isolated_iff_of_changed (hne : w'.mounts.entries ≠ w.mounts.entries)
    (h : Isolated naming w r d (outcome, w') ↔
      (∀ m ∈ r.handled w.mounts d, ¬ Foreign naming w.tree d m) ∧
        (outcome = .ok () → ∀ m ∈ r.left w.mounts d, m.mountsNode d.node = false)) :
    Isolated naming w r d (outcome, w') ↔ r.Proper naming w d (outcome, w') := by
  rw [h]
  constructor
  · intro hproper _
    exact hproper
  · intro hproper
    exact hproper hne

/-- A failure that leaves the table alone is isolated. -/
theorem isolated_iff_of_failed (e : Refusal) (hsame : w'.mounts.entries = w.mounts.entries) :
    Isolated naming w r d (.error e, w') ↔ r.Proper naming w d (.error e, w') :=
  isolated_iff_of_unchanged hsame fun hok => by cases hok

theorem isolated_stage_iff {naming : TextNaming} {r : StageRequest}
    (h : StageEffect naming r w outcome w')
    (hd : naming.device w.tree r.volume = .ok d) :
    Isolated naming w (.stage r) d (outcome, w') ↔
      (Call.stage r).Proper naming w d (outcome, w') := by
  cases h with
  | failed e => exact isolated_iff_of_failed e rfl
  | present ready mounted fits => exact isolated_iff_of_unchanged rfl fun _ p hp => by cases hp
  | @mounted d₁ plan ready unmounted =>
    obtain rfl : d₁ = d := Except.ok.inj (ready.device.symm.trans hd)
    rw [MemoryTable.nodeOf_link ready.device]
    -- the new entry mounts the device of the call, whatever was mounted before
    have hisolated : Isolated naming w (.stage r) d₁
        (.ok (), { w with mounts := w.mounts.mountBy plan d₁.node r.staging }) := by
      refine ⟨fun v d' _ hne => ?_, fun _ p hp => by cases hp⟩
      rw [MemoryTable.entriesOf_mountBy, if_neg hne.symm, List.append_nil]
    constructor
    · intro _ _
      exact ⟨fun m hm => absurd hm List.not_mem_nil, fun _ m hm => absurd hm List.not_mem_nil⟩
    · intro _
      exact hisolated

theorem isolated_unstage_iff {r : UnstageRequest} (h : UnstageEffect naming r w outcome w')
    (hd : naming.device w.tree r.volume = .ok d) :
    Isolated naming w (.unstage r) d (outcome, w') ↔
      (Call.unstage r).Proper naming w d (outcome, w') := by
  cases h with
  | failed e => exact isolated_iff_of_failed e rfl
  | @absent d₁ ready unmounted =>
    obtain rfl : d₁ = d := Except.ok.inj (ready.device.symm.trans hd)
    refine isolated_iff_of_unchanged rfl fun _ p _ m hm => ?_
    have hmem := (List.mem_filter.1 hm).1
    simpa using List.filter_eq_nil_iff.1 unmounted m hmem
  | @unmounted d₁ m ready single source path =>
    obtain rfl : d₁ = d := Except.ok.inj (ready.device.symm.trans hd)
    have hat : m ∈ w.mounts.entriesAt r.staging :=
      List.mem_filter.2 ⟨MemoryTable.mem_entries_of_single single, by simpa using path⟩
    exact isolated_iff_of_changed
      (MemoryTable.entries_unmountTimes_ne Nat.one_ne_zero (List.ne_nil_of_mem hat))
      (isolated_unmountTimes_iff rfl rfl)

theorem isolated_publish_iff {r : PublishRequest} (h : PublishEffect naming r w outcome w') :
    Isolated naming w (.publish r) d (outcome, w') ↔
      (Call.publish r).Proper naming w d (outcome, w') := by
  cases h with
  | failed e tree made => exact isolated_iff_of_failed e rfl
  | present ready published fits => exact isolated_iff_of_unchanged rfl fun _ p hp => by cases hp
  | bound ready unpublished staged =>
    refine isolated_iff_of_changed ?_ ?_
    · rw [MemoryTable.entries_insert]
      exact fun hsame => absurd hsame (by simp)
    · rw [isolated_bind_iff rfl rfl]
      exact ⟨fun h => ⟨h, fun _ m hm => absurd hm List.not_mem_nil⟩, And.left⟩

theorem isolated_unpublish_iff {r : UnpublishRequest} (h : UnpublishEffect naming r w outcome w')
    (hd : naming.device w.tree r.volume = .ok d) :
    Isolated naming w (.unpublish r) d (outcome, w') ↔
      (Call.unpublish r).Proper naming w d (outcome, w') := by
  have hat : ∀ {d : Device}, w.mounts.countAt r.target d ≠ 0 →
      w.mounts.entriesAt r.target ≠ [] := by
    intro d hsome hnil
    unfold MemoryTable.countAt at hsome
    rw [hnil] at hsome
    exact hsome rfl
  cases h with
  | failed e => exact isolated_iff_of_failed e rfl
  | @absent d₁ ready none =>
    obtain rfl : d₁ = d := Except.ok.inj (ready.device.symm.trans hd)
    refine isolated_iff_of_unchanged rfl fun _ p hp m hm => ?_
    cases hp
    have hshows := List.countP_eq_zero.1 none m hm
    cases hnode : m.mountsNode d₁.node with
    | false => rfl
    | true => exact absurd (Handler.shows_of_mountsNode hnode) hshows
  | @stuck d₁ e ready some kept =>
    obtain rfl : d₁ = d := Except.ok.inj (ready.device.symm.trans hd)
    exact isolated_iff_of_changed (MemoryTable.entries_unmountTimes_ne some (hat some))
      (isolated_unmountTimes_iff rfl rfl)
  | @unmounted d₁ tree ready some removed =>
    obtain rfl : d₁ = d := Except.ok.inj (ready.device.symm.trans hd)
    exact isolated_iff_of_changed (MemoryTable.entries_unmountTimes_ne some (hat some))
      (isolated_unmountTimes_iff rfl rfl)

theorem isolated_iff_of_device {naming : TextNaming} (hd : naming.device w.tree r.volume = .ok d) :
    Isolated naming w r d (r.run MemoryTable.system naming w) ↔
      r.Proper naming w d (r.run MemoryTable.system naming w) := by
  cases r with
  | stage r => exact isolated_stage_iff (stage_effect naming r w) hd
  | unstage r => exact isolated_unstage_iff (unstage_effect naming r w) hd
  | publish r => exact isolated_publish_iff (publish_effect naming r w)
  | unpublish r => exact isolated_unpublish_iff (unpublish_effect naming r w) hd

/-- **A call is isolated exactly if it is proper**: if what lies on top at its path, as far as it
    works on it, belongs to no other attached volume, and nothing of its own device lies below. A
    call for a volume without a device does nothing at all. -/
theorem isolated_iff (naming : TextNaming) (w : MemoryWorld) (r : Call) :
    (∀ d, naming.device w.tree r.volume = .ok d →
      (Isolated naming w r d (r.run MemoryTable.system naming w) ↔
        r.Proper naming w d (r.run MemoryTable.system naming w))) ∧
      ∀ e, naming.device w.tree r.volume = .error e →
        r.run MemoryTable.system naming w = (.error e, w) := by
  refine ⟨fun d hd => ?_, fun e he => ?_⟩
  · exact isolated_iff_of_device hd
  · exact Handler.run_of_unattached _ w he

end Calls

/-- The small machine with both volumes staged at `/s`, the second one on top. -/
def stackedWorld : MemoryWorld :=
  (Call.runAll smallNaming [.stage ⟨"a", "/s", writer []⟩, .stage ⟨"b", "/s", writer []⟩]
    smallWorld).2

/-- The call for the lower volume handles the mount of the upper one. -/
theorem not_proper_stackedWorld :
    ¬ (Call.unstage ⟨"a", "/s"⟩).Proper smallNaming stackedWorld ⟨"/l/xa", "/d/m", "xa"⟩
        ((Call.unstage ⟨"a", "/s"⟩).run MemoryTable.system smallNaming stackedWorld) := by
  intro hproper
  have hiff := (isolated_iff smallNaming stackedWorld (.unstage ⟨"a", "/s"⟩)).1 _ device_smallTree_a
  have hothers := (hiff.2 hproper).others "b" _ device_smallTree_b (by decide)
  exact absurd hothers (by decide +kernel)

/-- Taking the first volume off the path takes the mount of the second one away, and leaves its own
    behind. -/
theorem not_isolated_stacked :
    ¬ ∀ (naming : TextNaming) (start w : MemoryWorld) (r : Call) (d : Device),
        start.mounts.entries = [] → Reachable naming (fun _ _ => True) start w →
        naming.device w.tree r.volume = .ok d →
        Isolated naming w r d (r.run MemoryTable.system naming w) := by
  intro h
  have hreach : Reachable smallNaming (fun _ _ => True) smallWorld stackedWorld :=
    .call (.call .start (.stage ⟨"a", "/s", writer []⟩) trivial)
      (.stage ⟨"b", "/s", writer []⟩) trivial
  have hisolated := h smallNaming smallWorld stackedWorld (.unstage ⟨"a", "/s"⟩) _ rfl hreach
    device_smallTree_a
  have hothers := hisolated.others "b" _ device_smallTree_b (by decide)
  exact absurd hothers (by decide +kernel)

end VolumeNode
