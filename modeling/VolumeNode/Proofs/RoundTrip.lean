import Mathlib.Data.List.Nodup
import VolumeNode.Proofs.Call.Course
import VolumeNode.Proofs.FileTree.Rooted

/-!
# There and back

A volume is staged, published at some targets, taken off them in any order, and unstaged.

* `Stageable` and `Publishable` say what has to hold of the world before: the device and the
  directories are free, and the targets can be made.
* `inUse` is the world in between: its tree has the directories of the publications behind the old
  entries, and its table has the mounts of the volume behind the old ones. Each call leads from one
  such world to another (`run_stage_inUse`, `run_publish_inUse`, `run_unpublish_inUse`).
* Calls keep every entry of the tree in a directory (`Call.rooted_run`), as file systems do.
* **`round_trip`**: all calls succeed, and the tree and the mounts are the old ones again. What may
  stay is a filesystem on a device that had none.

Unstaging finds the mount again since the directory of links is a text (`TextNaming`): the text of a
link leads to the node that the mount is then looked for under.
-/

namespace VolumeNode

/-! ## 1. Publications -/

/-- A publication of a staged volume. -/
structure Publication where
  target : String
  capability : Option Capability
  readOnly : Bool
deriving DecidableEq, Repr

namespace Publication

/-- The call that makes it. -/
def call (volume staging : String) (p : Publication) : Call :=
  .publish ⟨volume, staging, p.target, p.capability, p.readOnly⟩

/-- The flags that the staging directory is bound with. -/
def flags (p : Publication) : List String :=
  match MountPlan.ofRequest p.capability with
  | .ok plan => Handler.publishFlags plan.flags p.readOnly
  | .error _ => []

/-- Where the directory of the target comes to stand. -/
def place (t : FileTree) (p : Publication) : Location :=
  match t.slotOf p.target with
  | .ok (.named l name) => l ++ [name]
  | _ => []

def directory (t : FileTree) (p : Publication) : Location × Entry :=
  (p.place t, .directory Handler.targetMode)

/-- The mount at the target. -/
def entry (node fsType : String) (p : Publication) : MountEntry :=
  ⟨node, node, p.target, fsType, MemoryTable.optionsOf p.flags⟩

@[simp] theorem path_entry (node fsType : String) (p : Publication) :
    (p.entry node fsType).path = p.target := rfl

end Publication

/-- Nothing stands against staging a volume on a directory, where it is to be mounted first. -/
structure Stageable (naming : DeviceNaming) (r : StageRequest) (w : MemoryWorld) (d : Device)
    (plan : MountPlan) : Prop where
  allowed : w.mounts.refused = []
  device : naming.device w.tree r.volume = .ok d
  directory : Handler.directoryCheck w.tree r.staging = .ok ()
  plan : MountPlan.ofRequest r.capability = .ok plan
  unmounted : w.mounts.entriesOf d.node = []
  free : w.mounts.entriesAt r.staging = []

/-- Nothing stands against publications at new targets, each at a place of its own. -/
structure Publishable (w : MemoryWorld) (ps : List Publication) : Prop where
  plain : ∀ p ∈ ps, PlainPath.check p.target = .ok ()
  creatable : ∀ p ∈ ps, ∃ tree, w.tree.makeDirectory p.target Handler.targetMode = .ok tree
  free : ∀ p ∈ ps, w.mounts.entriesAt p.target = []
  valid : ∀ p ∈ ps, ∃ plan, MountPlan.ofRequest p.capability = .ok plan
  apart : ps.Pairwise fun p q => w.tree.slotOf p.target ≠ w.tree.slotOf q.target

namespace Publishable

variable {w : MemoryWorld} {ps qs : List Publication} {p q : Publication}

theorem sublist (h : Publishable w ps) (hqs : qs.Sublist ps) : Publishable w qs where
  plain := fun p hp => h.plain p (hqs.subset hp)
  creatable := fun p hp => h.creatable p (hqs.subset hp)
  free := fun p hp => h.free p (hqs.subset hp)
  valid := fun p hp => h.valid p (hqs.subset hp)
  apart := h.apart.sublist hqs

/-- The place of a target is free, in a directory. -/
theorem slot (h : Publishable w ps) (hp : p ∈ ps) :
    ∃ l name, w.tree.slotOf p.target = .ok (.named l name) ∧ w.tree.get? (l ++ [name]) = none ∧
      p.place w.tree = l ++ [name] := by
  obtain ⟨tree, htree⟩ := h.creatable p hp
  obtain ⟨l, name, hslot, hfree, _⟩ := FileTree.makeDirectory_eq_ok_iff.1 htree
  refine ⟨l, name, hslot, hfree, ?_⟩
  unfold Publication.place
  rw [hslot]

/-- Different slots are different places. -/
theorem nodup_places (h : Publishable w ps) : (ps.map (·.place w.tree)).Nodup := by
  refine List.pairwise_map.2 (h.apart.imp_of_mem ?_)
  intro p q hp hq hne hplace
  obtain ⟨l, name, hslot, _, hl⟩ := h.slot hp
  obtain ⟨k, name', hslot', _, hk⟩ := h.slot hq
  rw [hl, hk] at hplace
  obtain ⟨rfl, hname⟩ := List.append_inj' hplace rfl
  cases hname
  exact hne (hslot.trans hslot'.symm)

theorem nodup_targets (h : Publishable w ps) : (ps.map (·.target)).Nodup := by
  refine List.pairwise_map.2 (h.apart.imp ?_)
  intro p q hne htarget
  exact hne (by rw [htarget])

/-- No other publication is at the place or the target of one of them. -/
theorem alone (h : Publishable w (ps ++ p :: qs)) :
    p.place w.tree ∉ (ps ++ qs).map (·.place w.tree) ∧ p.target ∉ (ps ++ qs).map (·.target) := by
  have hplaces := h.nodup_places
  have htargets := h.nodup_targets
  rw [List.map_append, List.map_cons, List.nodup_middle, ← List.map_append] at hplaces htargets
  exact ⟨(List.nodup_cons.1 hplaces).1, (List.nodup_cons.1 htargets).1⟩

end Publishable

/-! ## 2. The world in use -/

/-- The world with a volume staged and published. -/
def inUse (w : MemoryWorld) (d : Device) (staging : String) (plan : MountPlan)
    (ps : List Publication) : MemoryWorld where
  tree := w.tree.grow (ps.map (·.directory w.tree))
  mounts := { w.mounts.mountBy plan d.node staging with
    entries := (w.mounts.mountBy plan d.node staging).entries ++
      ps.map (·.entry d.node plan.fsType) }

section InUse

variable {naming : DeviceNaming} {r : StageRequest} {w : MemoryWorld} {d : Device}
  {plan : MountPlan} {ps : List Publication} {p : Publication}

/-- The mount that a volume is staged with. -/
abbrev stagedEntry (d : Device) (staging : String) (plan : MountPlan) : MountEntry :=
  MemoryTable.deviceEntry d.node staging plan.fsType plan.mountFlags

theorem entries_inUse (w : MemoryWorld) (d : Device) (staging : String) (plan : MountPlan)
    (ps : List Publication) : (inUse w d staging plan ps).mounts.entries =
      w.mounts.entries ++ stagedEntry d staging plan :: ps.map (·.entry d.node plan.fsType) := by
  unfold inUse
  rw [MemoryTable.entries_mountBy, List.append_assoc]
  rfl

theorem not_mem_refused_inUse (h : Stageable naming r w d plan) (staging : String)
    (ps : List Publication) (kind : MountRequest) :
    kind ∉ (inUse w d staging plan ps).mounts.refused := by
  show kind ∉ (w.mounts.mountBy plan d.node staging).refused
  rw [MemoryTable.refused_mountBy, h.allowed]
  exact List.not_mem_nil

/-- The mounts of the device are those of the volume. -/
theorem entriesOf_inUse (h : Stageable naming r w d plan) (staging : String)
    (ps : List Publication) : (inUse w d staging plan ps).mounts.entriesOf d.node =
      stagedEntry d staging plan :: ps.map (·.entry d.node plan.fsType) := by
  have hold : w.mounts.entries.filter (·.mountsNode d.node) = [] := h.unmounted
  have hnew : ∀ m ∈ stagedEntry d staging plan :: ps.map (·.entry d.node plan.fsType),
      m.mountsNode d.node = true := by
    intro m hm
    rcases List.mem_cons.1 hm with rfl | hm
    · rw [MemoryTable.mountsNode_deviceEntry]
      exact beq_self_eq_true _
    · obtain ⟨p, _, rfl⟩ := List.mem_map.1 hm
      exact (MountEntry.mountsNode_of_source_eq_device rfl _).2 rfl
  unfold MemoryTable.entriesOf
  rw [entries_inUse, List.filter_append, hold, List.nil_append, List.filter_eq_self.2 hnew]

/-- The staging directory is there, and the targets are not. -/
theorem target_ne_staging (h : Stageable naming r w d plan) (hps : Publishable w ps)
    (hp : p ∈ ps) : p.target ≠ r.staging := by
  intro hsame
  obtain ⟨_, _, e, hstat, _⟩ := Handler.directoryCheck_eq_ok_iff.1 h.directory
  obtain ⟨l, name, hslot, hfree, _⟩ := hps.slot hp
  rw [hsame] at hslot
  rw [FileTree.stat_of_vacant hslot hfree] at hstat
  cases hstat

/-- Nothing but the staged volume is mounted on the staging directory. -/
theorem entriesAt_staging_inUse (h : Stageable naming r w d plan) (hps : Publishable w ps) :
    (inUse w d r.staging plan ps).mounts.entriesAt r.staging = [stagedEntry d r.staging plan] := by
  have hold : w.mounts.entries.filter (·.path == r.staging) = [] := h.free
  have hnew : (ps.map (·.entry d.node plan.fsType)).filter (·.path == r.staging) = [] := by
    rw [List.filter_eq_nil_iff]
    intro m hm
    obtain ⟨p, hp, rfl⟩ := List.mem_map.1 hm
    simpa using target_ne_staging h hps hp
  unfold MemoryTable.entriesAt
  rw [entries_inUse, List.filter_append, hold, List.nil_append, List.filter_cons_of_pos, hnew]
  simp [MemoryTable.deviceEntry]

/-- Publications leave other paths alone. -/
theorem path_ne_of_mem_inUse {path : String} (hold : w.mounts.entriesAt path = [])
    {staging : String} (hstaging : path ≠ staging) (htargets : path ∉ ps.map (·.target)) :
    ∀ m ∈ (inUse w d staging plan ps).mounts.entries, m.path ≠ path := by
  intro m hm
  rw [entries_inUse] at hm
  rcases List.mem_append.1 hm with hm | hm
  · simpa using List.filter_eq_nil_iff.1 hold m hm
  rcases List.mem_cons.1 hm with rfl | hm
  · exact hstaging.symm
  · obtain ⟨p, hp, rfl⟩ := List.mem_map.1 hm
    intro hpath
    exact htargets (List.mem_map.2 ⟨p, hp, hpath⟩)

/-- Publications take no other places. -/
theorem get?_inUse {l : Location} (hold : w.tree.get? l = none)
    (hplaces : l ∉ ps.map (·.place w.tree)) (staging : String) :
    (inUse w d staging plan ps).tree.get? l = none := by
  have hnew : (ps.map (·.directory w.tree)).lookup l = none := by
    rw [List.lookup_eq_none_iff]
    intro x hx
    obtain ⟨p, hp, rfl⟩ := List.mem_map.1 hx
    simp only [bne_iff_ne, ne_eq]
    intro hplace
    exact hplaces (List.mem_map.2 ⟨p, hp, hplace.symm⟩)
  show (w.tree.grow _).get? l = none
  rw [FileTree.get?_grow, hold, hnew]
  rfl

theorem device_inUse (h : Stageable naming r w d plan) (staging : String)
    (ps : List Publication) :
    naming.device (inUse w d staging plan ps).tree r.volume = .ok d :=
  FileTree.device_grow _ h.device

theorem directoryCheck_inUse (h : Stageable naming r w d plan) (staging : String)
    (ps : List Publication) :
    Handler.directoryCheck (inUse w d staging plan ps).tree r.staging = .ok () :=
  Handler.directoryCheck_grow h.directory _

theorem read_inUse (h : Stageable naming r w d plan) (staging : String)
    (ps : List Publication) : (inUse w d staging plan ps).mounts.read =
      .ok (inUse w d staging plan ps).mounts.entries :=
  MemoryTable.read_eq_ok_iff.2 ⟨not_mem_refused_inUse h _ _ _, rfl⟩

/-! ## 3. One call -/

theorem run_stage_inUse {naming : TextNaming} (h : Stageable naming r w d plan) :
    (Call.stage r).run MemoryTable.system naming w = (.ok (), inUse w d r.staging plan []) := by
  have hallowed : ∀ kind, kind ∉ w.mounts.refused := by
    intro kind
    rw [h.allowed]
    exact List.not_mem_nil
  have hread := MemoryTable.read_eq_ok_iff.2 ⟨hallowed .entries, rfl⟩
  rw [run_stage_of_unmounted ⟨h.device, h.directory, h.plan, hread⟩ h.unmounted (hallowed _)]
  unfold inUse
  rw [MemoryTable.nodeOf_link h.device, List.map_nil, List.map_nil, List.append_nil,
    FileTree.grow_nil]

/-- The target of one more publication is made. -/
theorem makeTarget?_inUse (hps : Publishable w (ps ++ [p])) (d : Device) (staging : String)
    (plan : MountPlan) :
    Handler.makeTarget? (inUse w d staging plan ps).tree p.target =
      .ok (inUse w d staging plan (ps ++ [p])).tree := by
  obtain ⟨l, name, hslot, hfree, hplace⟩ :=
    hps.slot (List.mem_append_right ps (List.mem_singleton_self p))
  have hnew := hps.alone.1
  rw [List.append_nil, hplace] at hnew
  have htree : (inUse w d staging plan ps).tree.insert (l ++ [name])
      (.directory Handler.targetMode) = (inUse w d staging plan (ps ++ [p])).tree := by
    show (w.tree.grow _).insert _ _ = w.tree.grow _
    rw [FileTree.insert_grow, List.map_append, ← hplace]
    rfl
  rw [← htree]
  exact Handler.makeTarget?_of_vacant (FileTree.slotOf_grow _ hslot) (get?_inUse hfree hnew staging)

/-- A bind of the staging directory shows the volume. -/
theorem bindEntry_inUse (h : Stageable naming r w d plan) (hps : Publishable w ps)
    (target : String) (flags : List String) :
    (inUse w d r.staging plan ps).mounts.bindEntry r.staging target flags =
      ⟨d.node, d.node, target, plan.fsType, MemoryTable.optionsOf flags⟩ := by
  have hmem : stagedEntry d r.staging plan ∈ (inUse w d r.staging plan ps).mounts.entries := by
    rw [entries_inUse]
    exact List.mem_append_right _ List.mem_cons_self
  have hone : ((inUse w d r.staging plan ps).mounts.entriesAt r.staging).length ≤ 1 := by
    rw [entriesAt_staging_inUse h hps]
    exact Nat.le_refl _
  exact MemoryTable.bindEntry_of_unique hmem rfl hone target flags

theorem run_publish_inUse (h : Stageable naming r w d plan) (hps : Publishable w (ps ++ [p])) :
    (p.call r.volume r.staging).run MemoryTable.system naming (inUse w d r.staging plan ps) =
      (.ok (), inUse w d r.staging plan (ps ++ [p])) := by
  have hp : p ∈ ps ++ [p] := List.mem_append_right _ (List.mem_singleton_self p)
  have hnew := hps.alone.2
  rw [List.append_nil] at hnew
  have hat : ∀ m ∈ (inUse w d r.staging plan ps).mounts.entries, m.path ≠ p.target :=
    path_ne_of_mem_inUse (hps.free p hp) (target_ne_staging h hps hp) hnew
  obtain ⟨plan', hplan'⟩ := hps.valid p hp
  have hready : PublishReady naming ⟨r.volume, r.staging, p.target, p.capability, p.readOnly⟩
      (inUse w d r.staging plan ps) d plan' (inUse w d r.staging plan (ps ++ [p])).tree :=
    ⟨device_inUse h _ _, Handler.targetCheck_of_plain (hps.plain p hp), makeTarget?_inUse hps _ _ _,
      directoryCheck_inUse h _ _, hplan', read_inUse h _ _⟩
  have hnone : Handler.published? ((inUse w d r.staging plan ps).mounts.entriesOf d.node)
      p.target = none :=
    Handler.published?_eq_none fun m hm => hat m (List.mem_filter.1 hm).1
  have hstaged : (inUse w d r.staging plan ps).mounts.entriesOf d.node ≠ [] := by
    rw [entriesOf_inUse h]
    exact List.cons_ne_nil _ _
  have hentry : p.entry d.node plan.fsType =
      ⟨d.node, d.node, p.target, plan.fsType,
        MemoryTable.optionsOf (Handler.publishFlags plan'.flags p.readOnly)⟩ := by
    unfold Publication.entry Publication.flags
    rw [hplan']
  refine (run_publish_of_bind hready hnone hstaged).trans ?_
  rw [MemoryTable.bindTo_of_allowed (not_mem_refused_inUse h _ _ _),
    bindEntry_inUse h (hps.sublist (List.sublist_append_left _ _)), ← hentry]
  unfold inUse MemoryTable.insert
  rw [List.map_append, List.map_append, List.append_assoc]
  rfl

/-- What is taken off its target in the middle leaves the other publications as they were. -/
theorem removeDirectory_inUse {below above : List Publication} (hrooted : w.tree.Rooted)
    (hps : Publishable w (below ++ p :: above)) (staging : String) :
    (inUse w d staging plan (below ++ p :: above)).tree.removeDirectory p.target =
      .ok (inUse w d staging plan (below ++ above)).tree := by
  have hp : p ∈ below ++ p :: above := List.mem_append_right _ List.mem_cons_self
  obtain ⟨l, name, hslot, hfree, hplace⟩ := hps.slot hp
  have hothers : ∀ x ∈ below.map (·.directory w.tree) ++ above.map (·.directory w.tree),
      x.1 ≠ l ++ [name] ∧ x.1.dropLast ≠ l ++ [name] := by
    intro x hx
    rw [← List.map_append] at hx
    obtain ⟨q, hq, rfl⟩ := List.mem_map.1 hx
    constructor
    · intro hsame
      exact hps.alone.1 (List.mem_map.2 ⟨q, hq, hsame.trans hplace.symm⟩)
    · -- the other target is in a directory that is there already, and this place is free
      have hq' : q ∈ below ++ p :: above :=
        ((List.Sublist.refl below).append (List.sublist_cons_self p above)).subset hq
      obtain ⟨k, name', hslot', _, hplace'⟩ := hps.slot hq'
      obtain ⟨_, _, _, _, hd, _⟩ := FileTree.slotOf_eq_named_iff.1 hslot'
      show (q.place w.tree).dropLast ≠ l ++ [name]
      rw [hplace', List.dropLast_concat]
      exact FileTree.ne_of_isDirectory_of_vacant hd hfree
  show (w.tree.grow _).removeDirectory p.target = .ok (w.tree.grow _)
  rw [List.map_append, List.map_cons, List.map_append]
  show (w.tree.grow (_ ++ (p.place w.tree, _) :: _)).removeDirectory p.target = _
  rw [hplace]
  exact hrooted.removeDirectory_grow hslot hfree hothers

/-- The mount at a target stands alone there, between what was mounted before and after it. -/
theorem entries_inUse_middle {below above : List Publication} (h : Stageable naming r w d plan)
    (hps : Publishable w (below ++ p :: above)) :
    ∃ before after,
      (inUse w d r.staging plan (below ++ p :: above)).mounts.entries =
        before ++ p.entry d.node plan.fsType :: after ∧
      (inUse w d r.staging plan (below ++ above)).mounts.entries = before ++ after ∧
      (∀ m ∈ before, m.path ≠ p.target) ∧ ∀ m ∈ after, m.path ≠ p.target := by
  have hp : p ∈ below ++ p :: above := List.mem_append_right _ List.mem_cons_self
  have hnew := hps.alone.2
  have hothers : ∀ m ∈ (inUse w d r.staging plan (below ++ above)).mounts.entries,
      m.path ≠ p.target :=
    path_ne_of_mem_inUse (hps.free p hp) (target_ne_staging h hps hp) hnew
  have hsplit : (inUse w d r.staging plan (below ++ above)).mounts.entries =
      (inUse w d r.staging plan below).mounts.entries ++
        above.map (·.entry d.node plan.fsType) := by
    rw [entries_inUse, entries_inUse, List.map_append, List.append_assoc, List.cons_append]
  rw [hsplit] at hothers
  refine ⟨_, _, ?_, hsplit, fun m hm => hothers m (List.mem_append_left _ hm),
    fun m hm => hothers m (List.mem_append_right _ hm)⟩
  rw [entries_inUse, entries_inUse, List.map_append, List.map_cons, List.append_assoc,
    List.cons_append]

theorem countAt_inUse {below above : List Publication} (h : Stageable naming r w d plan)
    (hps : Publishable w (below ++ p :: above)) :
    (inUse w d r.staging plan (below ++ p :: above)).mounts.countAt p.target d = 1 := by
  obtain ⟨before, after, hentries, _, hbefore, hafter⟩ := entries_inUse_middle h hps
  unfold MemoryTable.countAt MemoryTable.entriesAt
  rw [hentries, List.filter_append, List.filter_eq_nil_iff.2 (by simpa using hbefore),
    List.filter_cons_of_pos (by simp), List.filter_eq_nil_iff.2 (by simpa using hafter)]
  simp [Handler.shows, Publication.entry]

theorem unmountTimes_inUse {below above : List Publication} (h : Stageable naming r w d plan)
    (hps : Publishable w (below ++ p :: above)) :
    (inUse w d r.staging plan (below ++ p :: above)).mounts.unmountTimes p.target 1 =
      (inUse w d r.staging plan (below ++ above)).mounts := by
  obtain ⟨before, after, hentries, hless, _, hafter⟩ := entries_inUse_middle h hps
  have hpop : MemoryTable.popAt p.target
      (inUse w d r.staging plan (below ++ p :: above)).mounts.entries =
        some (inUse w d r.staging plan (below ++ above)).mounts.entries := by
    rw [hentries, hless]
    exact MemoryTable.popAt_eq_some_iff.2 ⟨before, _, after, rfl, rfl, rfl, hafter⟩
  rw [MemoryTable.unmountTimes_one_of_popAt hpop]
  rfl

theorem run_unpublish_inUse {below above : List Publication} (hrooted : w.tree.Rooted)
    (h : Stageable naming r w d plan) (hps : Publishable w (below ++ p :: above)) :
    (Call.unpublish ⟨r.volume, p.target⟩).run MemoryTable.system naming
        (inUse w d r.staging plan (below ++ p :: above)) =
      (.ok (), inUse w d r.staging plan (below ++ above)) := by
  have hplain := hps.plain p (List.mem_append_right _ List.mem_cons_self)
  have hready : UnpublishReady naming ⟨r.volume, p.target⟩
      (inUse w d r.staging plan (below ++ p :: above)) d :=
    ⟨device_inUse h _ _, Handler.targetCheck_of_plain hplain, read_inUse h _ _⟩
  have hcount := countAt_inUse h hps
  have hsome : (inUse w d r.staging plan (below ++ p :: above)).mounts.countAt p.target d ≠ 0 := by
    rw [hcount]
    exact Nat.one_ne_zero
  rw [run_unpublish_of_removed hready hsome (not_mem_refused_inUse h _ _ _)
    (removeDirectory_inUse hrooted hps _), hcount, unmountTimes_inUse h hps]

/-- The table without the staged volume again. What was made of its device stays. -/
theorem run_unstage_inUse (h : Stageable naming r w d plan) :
    (Call.unstage ⟨r.volume, r.staging⟩).run MemoryTable.system naming
        (inUse w d r.staging plan []) =
      (.ok (), { w with mounts :=
        { w.mounts.mountBy plan d.node r.staging with entries := w.mounts.entries } }) := by
  have hready : UnstageReady naming ⟨r.volume, r.staging⟩ (inUse w d r.staging plan []) d :=
    ⟨device_inUse h _ _, directoryCheck_inUse h _ _, read_inUse h _ _⟩
  have hpop : MemoryTable.popAt r.staging (inUse w d r.staging plan []).mounts.entries =
      some w.mounts.entries := by
    rw [entries_inUse]
    refine MemoryTable.popAt_eq_some_iff.2 ⟨_, _, [], rfl, (List.append_nil _).symm, rfl, ?_⟩
    intro m hm
    exact absurd hm List.not_mem_nil
  rw [run_unstage_of_single hready (entriesOf_inUse h _ []) rfl rfl,
    MemoryTable.unmount_of_popAt hpop (not_mem_refused_inUse h _ _ _)]
  unfold inUse
  rw [List.map_nil, FileTree.grow_nil]
  rfl

/-! ## 4. All calls -/

theorem succeed_publish (h : Stageable naming r w d plan) {qs : List Publication}
    (hps : Publishable w (ps ++ qs)) :
    Call.Succeed naming (qs.map (·.call r.volume r.staging)) (inUse w d r.staging plan ps)
      (inUse w d r.staging plan (ps ++ qs)) := by
  induction qs generalizing ps with
  | nil =>
    rw [List.append_nil]
    exact .nil _ _
  | cons q qs ih =>
    rw [List.append_cons] at hps ⊢
    have hq := run_publish_inUse h (hps.sublist (List.sublist_append_left _ _))
    exact .cons hq (ih hps)

/-- The targets may be taken in any order: what is left is in use in its old order. -/
theorem succeed_unpublish (hrooted : w.tree.Rooted) (h : Stageable naming r w d plan)
    (hps : Publishable w ps) {us : List String} (hus : us.Perm (ps.map (·.target))) :
    Call.Succeed naming (us.map fun u => .unpublish ⟨r.volume, u⟩) (inUse w d r.staging plan ps)
      (inUse w d r.staging plan []) := by
  induction us generalizing ps with
  | nil =>
    obtain rfl : ps = [] := List.map_eq_nil_iff.1 (List.nil_perm.1 hus)
    exact .nil _ _
  | cons u us ih =>
    obtain ⟨p, hp, rfl⟩ := List.mem_map.1 (hus.subset List.mem_cons_self)
    obtain ⟨below, above, rfl⟩ := List.append_of_mem hp
    have hrest : us.Perm ((below ++ above).map (·.target)) := by
      rw [List.map_append, List.map_cons] at hus
      rw [List.map_append]
      exact (hus.trans List.perm_middle).cons_inv
    have hless : Publishable w (below ++ above) :=
      hps.sublist ((List.Sublist.refl below).append (List.sublist_cons_self p above))
    exact .cons (run_unpublish_inUse hrooted h hps) (ih hless hrest)

/-- What staging leaves of itself in the table: a filesystem on a device that had none. -/
theorem mountBy_entries (s : MemoryTable) (plan : MountPlan) (node staging : String) :
    ({ s.mountBy plan node staging with entries := s.entries } : MemoryTable) =
      if plan.readOnly then s else s.formatIfBlank node plan.fsType := by
  unfold MemoryTable.mountBy MemoryTable.insert MemoryTable.formatIfBlank
  cases plan.readOnly with
  | true => rfl
  | false => cases s.filesystem? node <;> rfl

/-- A target that is made is in a directory. -/
theorem rooted_makeTarget? {t t' : FileTree} {path : String} (ht : t.Rooted)
    (hmake : Handler.makeTarget? t path = .ok t') : t'.Rooted := by
  unfold Handler.makeTarget? at hmake
  cases hl : t.lstat path with
  | ok e =>
    rw [hl] at hmake
    cases hmake
    exact ht
  | error e =>
    rw [hl] at hmake
    dsimp only at hmake
    by_cases he : e = .noEntry
    · rw [if_pos he] at hmake
      cases hm : t.makeDirectory path Handler.targetMode with
      | error e' =>
        rw [hm] at hmake
        cases hmake
      | ok tree =>
        rw [hm] at hmake
        cases hmake
        exact (FileTree.change_makeDirectory hm).rooted ht
    · rw [if_neg he] at hmake
      cases hmake

/-- Calls keep trees rooted, so that all trees are rooted that they ever see. -/
theorem Call.rooted_run (naming : DeviceNaming) (r : Call) (hrooted : w.tree.Rooted) :
    (r.run MemoryTable.system naming w).2.tree.Rooted := by
  cases r with
  | stage r =>
    rw [(stage_effect naming r w).tree]
    exact hrooted
  | unstage r =>
    rw [(unstage_effect naming r w).tree]
    exact hrooted
  | publish r =>
    rcases (publish_effect naming r w).tree with htree | hmake
    · rw [htree]
      exact hrooted
    · exact rooted_makeTarget? hrooted hmake
  | unpublish r =>
    rcases (unpublish_effect naming r w).tree with htree | hremove
    · rw [htree]
      exact hrooted
    · exact (FileTree.change_removeDirectory hremove).rooted hrooted

/-- **There and back.** A volume that is not mounted, staged on a free directory, published at any
    number of new targets, taken off them in any order and unstaged leaves the tree and the mounts
    as they were. All these calls succeed. At most the device has a filesystem that is new, and
    that only if it had none and was staged for writing. -/
theorem round_trip {naming : TextNaming} (hrooted : w.tree.Rooted) (h : Stageable naming r w d plan)
    (hps : Publishable w ps) {us : List String} (hus : us.Perm (ps.map (·.target))) :
    ∃ w', Call.Succeed naming
        (.stage r :: (ps.map (·.call r.volume r.staging) ++
          (us.map (fun u => .unpublish ⟨r.volume, u⟩) ++ [.unstage ⟨r.volume, r.staging⟩]))) w w' ∧
      w'.tree = w.tree ∧ w'.mounts.entries = w.mounts.entries ∧
      (w'.mounts = w.mounts ∨
        plan.readOnly = false ∧ w.mounts.filesystem? d.node = none ∧
          w'.mounts = { w.mounts with
            filesystems := (d.node, plan.fsType) :: w.mounts.filesystems
            formats := (d.node, w.mounts.timesFormatted d.node + 1) :: w.mounts.formats }) := by
  have hpublish : Call.Succeed naming (ps.map (·.call r.volume r.staging))
      (inUse w d r.staging plan []) (inUse w d r.staging plan ps) := succeed_publish h hps
  have hunpublish := succeed_unpublish hrooted h hps hus
  have hunstage := run_unstage_inUse h
  refine ⟨_, .cons (run_stage_inUse h) (hpublish.append (hunpublish.append
    (.cons hunstage (.nil _ _)))), rfl, rfl, ?_⟩
  rw [mountBy_entries]
  cases hro : plan.readOnly with
  | true => exact .inl rfl
  | false =>
    unfold MemoryTable.formatIfBlank
    cases hfs : w.mounts.filesystem? d.node with
    | some fsType => exact .inl rfl
    | none => exact .inr ⟨rfl, rfl, rfl⟩

end InUse

theorem rooted_smallTree : smallTree.Rooted := by
  unfold FileTree.Rooted
  decide +kernel

/-- Two publications on the small machine, one of them in the other staging directory. -/
def smallPublications : List Publication :=
  [⟨"/p", writer [], false⟩, ⟨"/t/q", writer ["noatime"], true⟩]

theorem round_trip_smallWorld :
    ∃ w', Call.Succeed smallNaming
        (.stage ⟨"a", "/s", writer []⟩ :: (smallPublications.map (·.call "a" "/s") ++
          (["/t/q", "/p"].map (fun u => .unpublish ⟨"a", u⟩) ++ [.unstage ⟨"a", "/s"⟩])))
        smallWorld w' ∧
      w'.tree = smallWorld.tree ∧ w'.mounts.entries = smallWorld.mounts.entries ∧
      (w'.mounts = smallWorld.mounts ∨
        false = false ∧ smallWorld.mounts.filesystem? "/d/m" = none ∧
          w'.mounts = { smallWorld.mounts with
            filesystems := ("/d/m", "ext4") :: smallWorld.mounts.filesystems
            formats := ("/d/m", smallWorld.mounts.timesFormatted "/d/m" + 1) ::
              smallWorld.mounts.formats }) := by
  have hstageable : Stageable smallNaming ⟨"a", "/s", writer []⟩ smallWorld
      ⟨"/l/xa", "/d/m", "xa"⟩ ⟨"ext4", [], false⟩ :=
    ⟨rfl, device_smallTree_a, by decide +kernel, by decide +kernel, rfl, rfl⟩
  have hcreatable : ∀ p ∈ smallPublications,
      ∃ tree, smallWorld.tree.makeDirectory p.target Handler.targetMode = .ok tree := by
    intro p hp
    rcases List.mem_cons.1 hp with rfl | hp
    · exact ⟨smallTree.insert [[0x70]] (.directory 0o750), by decide +kernel⟩
    · obtain rfl := List.mem_singleton.1 hp
      exact ⟨smallTree.insert [[0x74], [0x71]] (.directory 0o750), by decide +kernel⟩
  have hvalid : ∀ p ∈ smallPublications, ∃ plan, MountPlan.ofRequest p.capability = .ok plan := by
    intro p hp
    rcases List.mem_cons.1 hp with rfl | hp
    · exact ⟨⟨"ext4", [], false⟩, by decide +kernel⟩
    · obtain rfl := List.mem_singleton.1 hp
      exact ⟨⟨"ext4", ["noatime"], false⟩, by decide +kernel⟩
  have hpublishable : Publishable smallWorld smallPublications :=
    ⟨by decide +kernel, hcreatable, fun _ _ => rfl, hvalid, by decide +kernel⟩
  exact round_trip rooted_smallTree hstageable hpublishable (List.Perm.swap "/p" "/t/q" [])

end VolumeNode
