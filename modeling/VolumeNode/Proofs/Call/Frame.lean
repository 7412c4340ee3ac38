import VolumeNode.Proofs.Call.Alike
import VolumeNode.Proofs.FileTree.Straight
import VolumeNode.Proofs.Footprint
import VolumeNode.Proofs.Isolation

/-!
# What a call leaves alone

A call changes the world at its own paths and about its own device only.

* It changes the tree at the place of one of its paths (`Call.tree_run`), so everything else is
  found as before, the devices of other volumes among it, unless their look-up turns at that place
  (`ChangedAt.device`).
* It adds an entry at one of its paths or takes entries at them away, so every choice of entries
  elsewhere stays (`Call.filter_run`). It formats no other device (`Call.knows_run`).
* **`KeepsOff.alike`**: a call that keeps off some paths and a device leaves the world alike for
  them.
-/

namespace VolumeNode

open Location

variable {naming : DeviceNaming} {w w' : MemoryWorld} {outcome : Except Refusal Unit}

/-! ## 1. The tree -/

namespace FileTree

variable {t t' : FileTree} {paths : List String} {path : String}

/-- A path was made a directory where nothing was, or its empty directory was removed. -/
def ChangedAt (t : FileTree) (path : String) (t' : FileTree) : Prop :=
  t.AddsDirectory path Handler.targetMode t' ∨ t.removeDirectory path = .ok t'

/-- A path that goes straight down is changed at its place. -/
theorem ChangedAt.listed (h : t.ChangedAt path t') (hpaths : AlikeFor paths t t)
    (hpath : path ∈ paths) {l : Location} (hne : l ≠ placeOf path) : t'.listed l = t.listed l := by
  have hplace {k : Location} {name : Name} (hslot : t.slotOf path = .ok (.named k name)) :=
    concat_of_slotOf (hpaths.normal path hpath) (hpaths.proper path hpath)
      (hpaths.direct path hpath) hslot
  rcases h with hadds | hremoves
  · obtain ⟨k, name, hslot, _, _, rfl, _⟩ := hadds.place
    rw [listed_insert, if_neg (hplace hslot ▸ Ne.symm hne), List.append_nil]
  · obtain ⟨k, name, mode, hslot, _, _, rfl⟩ := removeDirectory_eq_ok_iff.1 hremoves
    rw [listed_erase, if_neg (hplace hslot ▸ Ne.symm hne)]

theorem ChangedAt.workplace (h : t.ChangedAt path t') : t'.workplace = t.workplace := by
  rcases h with hadds | hremoves
  · obtain ⟨_, _, _, _, _, rfl, _⟩ := hadds.place
    rfl
  · obtain ⟨_, _, _, _, _, _, rfl⟩ := removeDirectory_eq_ok_iff.1 hremoves
    rfl

/-- Paths apart from the one that was changed see no difference. -/
theorem ChangedAt.alikeFor {others : List String} (h : t.ChangedAt path t')
    (hpaths : AlikeFor paths t t) (hpath : path ∈ paths) (hothers : AlikeFor others t t)
    (hapart : ∀ q ∈ others, (placeOf path).Apart (placeOf q)) : AlikeFor others t t' where
  normal := hothers.normal
  proper := hothers.proper
  direct := hothers.direct
  agree q hq l hl := by
    refine (h.listed hpaths hpath ?_).symm
    rintro rfl
    exact hl (hapart q hq)

/-- The device of a volume is found still. -/
theorem ChangedAt.device {volume : String} {d : Device} (h : t.ChangedAt path t') (ht : t.Lawful)
    (hpaths : AlikeFor paths t t) (hpath : path ∈ paths) (hd : naming.device t volume = .ok d)
    (hclear : naming.ClearOf t path volume) (houtside : naming.Outside t path) :
    naming.device t' volume = .ok d := by
  rcases h with hadds | hremoves
  · obtain ⟨k, name, _, _, _, rfl, _⟩ := hadds.place
    exact device_grow [(k ++ [name], _)] hd
  · exact device_erase ht hd hclear (hpaths.normal path hpath) (hpaths.proper path hpath)
      (hpaths.direct path hpath) houtside hremoves

end FileTree

/-- A call leaves the tree as it is, or changes it at one of its paths. -/
theorem Call.tree_run (naming : DeviceNaming) (r : Call) (w : MemoryWorld) :
    (r.run MemoryTable.system naming w).2.tree = w.tree ∨
      ∃ path ∈ r.paths, w.tree.ChangedAt path (r.run MemoryTable.system naming w).2.tree := by
  cases r with
  | stage r => exact .inl (stage_effect naming r w).tree
  | unstage r => exact .inl (unstage_effect naming r w).tree
  | publish r =>
    rcases (publish_effect naming r w).tree with hsame | hmade
    · exact .inl hsame
    · rcases FileTree.addsDirectory_of_makeTarget? hmade with hsame | hadds
      · exact .inl hsame
      · exact .inr ⟨r.target, List.mem_cons_of_mem _ List.mem_cons_self, .inl hadds⟩
  | unpublish r =>
    rcases (unpublish_effect naming r w).tree with hsame | hremoved
    · exact .inl hsame
    · exact .inr ⟨r.target, List.mem_cons_self, .inr hremoved⟩

/-! ## 2. The table -/

section Table

variable {node : String} {e : Device} {q : MountEntry → Bool}

/-- A choice of entries has none at some paths, but for a device. -/
def Elsewhere (paths : List String) (node : String) (q : MountEntry → Bool) : Prop :=
  ∀ m : MountEntry, m.path ∈ paths → m.mountsNode node = false → q m = false

theorem filter_popTimes_of_elsewhere {paths : List String} {path : String} (hpath : path ∈ paths)
    {rs : List MountEntry} (hq : Elsewhere paths node q)
    (hfree : ∀ m ∈ rs, m.path ∈ paths → m.mountsNode node = false) (n : Nat) :
    (MemoryTable.popTimes path n rs).filter q = rs.filter q := by
  refine (MemoryTable.filter_popTimes_eq_iff path q n rs).2 fun x hx => ?_
  obtain ⟨hmem, hat⟩ := List.mem_filter.1 ((List.drop_sublist _ _).subset hx)
  obtain rfl := beq_iff_eq.1 hat
  exact hq x hpath (hfree x hmem hpath)

theorem filter_insert_of_elsewhere {paths : List String} {s : MemoryTable} {m : MountEntry}
    (hq : Elsewhere paths node q) (hpath : m.path ∈ paths) (hm : m.mountsNode node = false) :
    (s.insert m).entries.filter q = s.entries.filter q := by
  rw [MemoryTable.entries_insert, List.filter_append, List.filter_singleton, hq m hpath hm]
  exact List.append_nil _

theorem StageEffect.filter {naming : TextNaming} {r : StageRequest}
    (h : StageEffect naming r w outcome w')
    (hd : naming.device w.tree r.volume = .ok e) (hne : e.node ≠ node)
    (hq : Elsewhere [r.staging] node q) :
    w'.mounts.entries.filter q = w.mounts.entries.filter q := by
  cases h with
  | failed _ => rfl
  | present => rfl
  | @mounted d plan ready unmounted =>
    obtain rfl : d = e := Except.ok.inj (ready.device.symm.trans hd)
    show (w.mounts.mountBy plan _ r.staging).entries.filter q = _
    rw [MemoryTable.nodeOf_link ready.device]
    unfold MemoryTable.mountBy
    rw [filter_insert_of_elsewhere hq List.mem_cons_self (by simpa using hne)]
    split
    · rfl
    · rw [MemoryTable.entries_formatIfBlank]

theorem PublishEffect.filter {r : PublishRequest} (h : PublishEffect naming r w outcome w')
    (hrooted : node.toList.head? = some '/') (hq : Elsewhere [r.staging, r.target] node q)
    (hfree : ∀ m ∈ w.mounts.entries, m.path ∈ [r.staging, r.target] → m.mountsNode node = false) :
    w'.mounts.entries.filter q = w.mounts.entries.filter q := by
  cases h with
  | failed _ => rfl
  | present => rfl
  | @bound d plan tree ready unpublished staged =>
    refine filter_insert_of_elsewhere hq (by rw [MemoryTable.path_bindEntry]; simp) ?_
    -- what is bound lay at one of the paths of the call
    rw [Bool.eq_false_iff]
    intro hbind
    obtain ⟨m, hm, hmounts⟩ := (mountsNode_bindEntry hrooted ..).1 hbind
    obtain ⟨hmem, hat⟩ := List.mem_filter.1 ((List.drop_sublist _ _).subset hm)
    rw [hfree m hmem (List.mem_cons.2 (.inl (beq_iff_eq.1 hat)))] at hmounts
    cases hmounts

/-- **A call changes no choice of entries elsewhere.** -/
theorem Call.filter_run {naming : TextNaming} {r : Call}
    (hd : naming.device w.tree r.volume = .ok e) (hne : e.node ≠ node)
    (hrooted : node.toList.head? = some '/') (hq : Elsewhere r.paths node q)
    (hfree : ∀ m ∈ w.mounts.entries, m.path ∈ r.paths → m.mountsNode node = false) :
    (r.run MemoryTable.system naming w).2.mounts.entries.filter q = w.mounts.entries.filter q := by
  cases r with
  | stage r => exact (stage_effect naming r w).filter hd hne hq
  | unstage r =>
    obtain ⟨n, hn⟩ := (unstage_effect naming r w).entries
    rw [hn, filter_popTimes_of_elsewhere List.mem_cons_self hq hfree]
  | publish r => exact (publish_effect naming r w).filter hrooted hq hfree
  | unpublish r =>
    obtain ⟨n, hn⟩ := (unpublish_effect naming r w).entries
    rw [hn, filter_popTimes_of_elsewhere List.mem_cons_self hq hfree]

theorem MemoryTable.knows_mountBy (s : MemoryTable) (plan : MountPlan) {other : String}
    (hne : other ≠ node) (staging : String) :
    MemoryTable.Knows node s (s.mountBy plan other staging) := by
  have hbeq : (node == other) = false := by simpa using Ne.symm hne
  unfold MemoryTable.mountBy MemoryTable.formatIfBlank
  split
  · exact ⟨rfl, rfl, rfl⟩
  · split
    · exact ⟨rfl, rfl, rfl⟩
    · exact ⟨by simp [MemoryTable.filesystem?, MemoryTable.insert, List.lookup_cons, hbeq],
        by simp [MemoryTable.timesFormatted, MemoryTable.insert, List.lookup_cons, hbeq], rfl⟩

theorem StageEffect.knows {naming : TextNaming} {r : StageRequest}
    (h : StageEffect naming r w outcome w')
    (hd : naming.device w.tree r.volume = .ok e) (hne : e.node ≠ node) :
    MemoryTable.Knows node w.mounts w'.mounts := by
  cases h with
  | failed _ => exact ⟨rfl, rfl, rfl⟩
  | present => exact ⟨rfl, rfl, rfl⟩
  | mounted ready unmounted =>
    cases Except.ok.inj (ready.device.symm.trans hd)
    rw [MemoryTable.nodeOf_link ready.device]
    exact MemoryTable.knows_mountBy _ _ hne _

theorem UnstageEffect.knows {r : UnstageRequest} (h : UnstageEffect naming r w outcome w')
    (node : String) : MemoryTable.Knows node w.mounts w'.mounts := by
  cases h <;> exact ⟨rfl, rfl, rfl⟩

theorem PublishEffect.knows {r : PublishRequest} (h : PublishEffect naming r w outcome w')
    (node : String) : MemoryTable.Knows node w.mounts w'.mounts := by
  cases h <;> exact ⟨rfl, rfl, rfl⟩

theorem UnpublishEffect.knows {r : UnpublishRequest} (h : UnpublishEffect naming r w outcome w')
    (node : String) : MemoryTable.Knows node w.mounts w'.mounts := by
  cases h <;> exact ⟨rfl, rfl, rfl⟩

/-- A call formats no other device, and refuses what was refused before. -/
theorem Call.knows_run {naming : TextNaming} {r : Call} (hd : naming.device w.tree r.volume = .ok e)
    (hne : e.node ≠ node) :
    MemoryTable.Knows node w.mounts (r.run MemoryTable.system naming w).2.mounts := by
  cases r with
  | stage r => exact (stage_effect naming r w).knows hd hne
  | unstage r => exact (unstage_effect naming r w).knows node
  | publish r => exact (publish_effect naming r w).knows node
  | unpublish r => exact (unpublish_effect naming r w).knows node

end Table

/-! ## 3. Calls that keep off -/

/-- A call for a volume with this device has paths that go straight down, and keeps off some other
    paths and another device. -/
structure KeepsOff (naming : DeviceNaming) (w : MemoryWorld) (r : Call) (e : Device)
    (paths : List String) (node : String) : Prop where
  device : naming.device w.tree r.volume = .ok e
  own : FileTree.AlikeFor r.paths w.tree w.tree
  others : FileTree.AlikeFor paths w.tree w.tree
  places : ∀ p ∈ r.paths, ∀ q ∈ paths, (placeOf p).Apart (placeOf q)
  node_ne : e.node ≠ node
  rooted : node.toList.head? = some '/'
  /-- The other device has no mounts at the paths of the call. -/
  free : ∀ m ∈ w.mounts.entries, m.path ∈ r.paths → m.mountsNode node = false

namespace KeepsOff

variable {naming : TextNaming} {r : Call} {e : Device} {paths : List String} {node : String}

theorem elsewhere_concerns (h : KeepsOff naming w r e paths node) :
    Elsewhere r.paths node (MemoryTable.concerns paths node) := by
  intro m hpath hnode
  have hnot : m.path ∉ paths := fun hmem => (h.places _ hpath _ hmem).1 List.prefix_rfl
  unfold MemoryTable.concerns
  rw [hnode, Bool.or_false, List.contains_eq_mem, decide_eq_false hnot]

/-- **The world stays alike for the others.** -/
theorem alike (h : KeepsOff naming w r e paths node) :
    Alike paths node w (r.run MemoryTable.system naming w).2 where
  tree := by
    rcases Call.tree_run naming r w with hsame | ⟨path, hpath, hchanged⟩
    · rw [hsame]
      exact h.others
    · exact hchanged.alikeFor h.own hpath h.others (h.places path hpath)
  mounts :=
    ⟨Call.knows_run h.device h.node_ne,
      (Call.filter_run h.device h.node_ne h.rooted h.elsewhere_concerns h.free).symm⟩

end KeepsOff

end VolumeNode
