import Mathlib.Data.List.Nodup
import Mathlib.Data.Set.Insert
import VolumeNode.Proofs.Call.Course

/-!
# The mounts of a volume over its life

Volumes that keep to paths of their own are mounted in one shape all the time, whatever calls are
made for them and whichever fail.

* An `Ownership` gives each volume a device node, a staging path and some target paths, none of them
  shared. `Ownership.May` are the calls that keep to it.
* `Orderly` is the INVARIANT: every entry is at a path of the volume whose device it mounts, no path
  holds two entries, and a volume with any entry has one at its staging path.
* Each of the four calls keeps it (`Orderly.call`), so every reachable table is orderly
  (`Reachable.orderly`).
* **`lifecycle`**: a volume is not mounted at all, or once at its staging path, at most once at each
  of its targets and nowhere else; its paths hold nothing else, and its staging mount outlives its
  publications.

The directory of links is a text here. Devices are mounted by the texts of their links, and the text
of another directory may lead to the device of another volume.
-/

namespace VolumeNode

/-! ## 1. Whose paths are whose -/

/-- What each volume has for itself. -/
structure Ownership where
  volumes : Set String
  /-- The node of the volume's device. -/
  node : String → String
  staging : String → String
  targets : String → Set String
  node_inj : ∀ v ∈ volumes, ∀ u ∈ volumes, node v = node u → v = u
  staging_not_mem : ∀ v ∈ volumes, staging v ∉ targets v
  paths_disjoint : ∀ v ∈ volumes, ∀ u ∈ volumes, ∀ p ∈ insert (staging v) (targets v),
    p ∈ insert (staging u) (targets u) → v = u

namespace Ownership

/-- The paths that a volume may be mounted at. -/
def paths (o : Ownership) (v : String) : Set String :=
  insert (o.staging v) (o.targets v)

/-- The calls that name only paths of their volume. -/
def Allows (o : Ownership) : Call → Prop
  | .stage r => r.staging = o.staging r.volume
  | .unstage r => r.staging = o.staging r.volume
  | .publish r => r.staging = o.staging r.volume ∧ r.target ∈ o.targets r.volume
  | .unpublish r => r.target ∈ o.targets r.volume

/-- The calls that may be made in a world: they keep to the paths of their volume, which is found at
    its own device if it is found. -/
structure May (o : Ownership) (naming : DeviceNaming) (w : MemoryWorld) (r : Call) : Prop where
  volume : r.volume ∈ o.volumes
  settled : ∀ d, naming.device w.tree r.volume = .ok d → d.node = o.node r.volume
  allows : o.Allows r

/-- An entry mounts the device of a volume, at a path of this volume. -/
structure Owns (o : Ownership) (v : String) (m : MountEntry) : Prop where
  volume : v ∈ o.volumes
  device : m.device = o.node v
  source : m.source = o.node v
  path : m.path ∈ o.paths v

variable {o : Ownership} {v u : String} {m : MountEntry}

theorem staging_mem (o : Ownership) (v : String) : o.staging v ∈ o.paths v :=
  Set.mem_insert _ _

theorem target_mem {t : String} (h : t ∈ o.targets v) : t ∈ o.paths v :=
  Set.mem_insert_of_mem _ h

/-- A target is no staging path, not even that of another volume. -/
theorem target_ne_staging (hv : v ∈ o.volumes) (hu : u ∈ o.volumes) {t : String}
    (ht : t ∈ o.targets v) : o.staging u ≠ t := by
  rintro rfl
  have hvu : v = u := o.paths_disjoint v hv u hu _ (target_mem ht) (o.staging_mem u)
  subst hvu
  exact o.staging_not_mem v hv ht

/-- At a path of a volume no other volume owns an entry. -/
theorem Owns.volume_eq (h : o.Owns v m) (hu : u ∈ o.volumes) (hpath : m.path ∈ o.paths u) :
    v = u :=
  o.paths_disjoint v h.volume u hu _ h.path hpath

theorem Owns.mountsNode_iff (h : o.Owns v m) (node : String) :
    m.mountsNode node = true ↔ o.node v = node := by
  rw [MountEntry.mountsNode_of_source_eq_device (h.source.trans h.device.symm), h.device]

end Ownership

/-! ## 2. The invariant -/

/-- The shape of a table whose mounts keep to the paths of their volumes. -/
structure Orderly (o : Ownership) (rs : List MountEntry) : Prop where
  owned : ∀ m ∈ rs, ∃ v, o.Owns v m
  nodup : (rs.map (·.path)).Nodup
  staged : ∀ v, ∀ m ∈ rs, o.Owns v m → ∃ s ∈ rs, s.path = o.staging v

namespace Orderly

variable {o : Ownership} {rs rs' : List MountEntry} {v u : String} {m x : MountEntry}

theorem nil (o : Ownership) : Orderly o [] where
  owned := fun _ hm => absurd hm List.not_mem_nil
  nodup := List.nodup_nil
  staged := fun _ _ hm => absurd hm List.not_mem_nil

/-- What is at a path of a volume is the volume's. -/
theorem owns_of_path (h : Orderly o rs) (hm : m ∈ rs) (hv : v ∈ o.volumes)
    (hpath : m.path ∈ o.paths v) : o.Owns v m := by
  obtain ⟨u, hu⟩ := h.owned m hm
  have huv : u = v := hu.volume_eq hv hpath
  exact huv ▸ hu

/-- What mounts the device of a volume is the volume's. -/
theorem owns_of_mountsNode (h : Orderly o rs) (hm : m ∈ rs) (hv : v ∈ o.volumes)
    (hnode : m.mountsNode (o.node v) = true) : o.Owns v m := by
  obtain ⟨u, hu⟩ := h.owned m hm
  have huv : u = v := o.node_inj u hu.volume v hv ((hu.mountsNode_iff _).1 hnode)
  exact huv ▸ hu

/-- A path holds one entry at most. -/
theorem length_filter_path_le (h : Orderly o rs) (p : String) :
    (rs.filter (·.path == p)).length ≤ 1 := by
  have hcount : (rs.map (·.path)).count p ≤ 1 := List.nodup_iff_count_le_one.1 h.nodup p
  rwa [List.count, List.countP_map, List.countP_eq_length_filter] at hcount

/-- A new entry at a free path keeps the table orderly, as long as its volume has a mount at the
    staging path then. -/
theorem insert (h : Orderly o rs) (hx : o.Owns v x) (hfree : ∀ m ∈ rs, m.path ≠ x.path)
    (hstaged : ∃ s ∈ rs ++ [x], s.path = o.staging v) : Orderly o (rs ++ [x]) where
  owned := by
    intro m hm
    rcases List.mem_append.1 hm with hm | hm
    · exact h.owned m hm
    · obtain rfl := List.mem_singleton.1 hm
      exact ⟨v, hx⟩
  nodup := by
    rw [List.map_append, List.nodup_append]
    refine ⟨h.nodup, List.nodup_singleton _, ?_⟩
    intro p hp q hq
    obtain ⟨m, hm, rfl⟩ := List.mem_map.1 hp
    obtain rfl := List.mem_singleton.1 hq
    exact hfree m hm
  staged := by
    intro u m hm hu
    rcases List.mem_append.1 hm with hm | hm
    · obtain ⟨s, hs, hpath⟩ := h.staged u m hm hu
      exact ⟨s, List.mem_append_left _ hs, hpath⟩
    · obtain rfl := List.mem_singleton.1 hm
      have huv : u = v := hu.volume_eq hx.volume hx.path
      exact huv ▸ hstaged

/-- Unmounts keep the table orderly unless they take a staging mount away from its publications. -/
theorem popTimes (h : Orderly o rs) (p : String) (n : Nat)
    (hstaged : ∀ v, ∀ m ∈ MemoryTable.popTimes p n rs, o.Owns v m → o.staging v ≠ p) :
    Orderly o (MemoryTable.popTimes p n rs) where
  owned := fun m hm => h.owned m ((MemoryTable.popTimes_sublist p n rs).subset hm)
  nodup := h.nodup.sublist ((MemoryTable.popTimes_sublist p n rs).map _)
  staged := by
    intro v m hm hv
    obtain ⟨s, hs, hpath⟩ := h.staged v m ((MemoryTable.popTimes_sublist p n rs).subset hm) hv
    have hat : s ∈ rs.filter (·.path == o.staging v) := List.mem_filter.2 ⟨hs, by simpa using hpath⟩
    rw [← MemoryTable.filter_path_popTimes_of_ne (hstaged v m hm hv) n rs] at hat
    exact ⟨s, (List.mem_filter.1 hat).1, hpath⟩

end Orderly

/-! ## 3. One call -/

section Calls

variable {o : Ownership} {naming : DeviceNaming} {w : MemoryWorld}

/-- The entries of a volume's device are the entries that the volume owns. -/
theorem Orderly.mem_entriesOf_iff (h : Orderly o w.mounts.entries) {v : String}
    (hv : v ∈ o.volumes) {m : MountEntry} :
    m ∈ w.mounts.entriesOf (o.node v) ↔ m ∈ w.mounts.entries ∧ o.Owns v m := by
  unfold MemoryTable.entriesOf
  rw [List.mem_filter]
  constructor
  · intro ⟨hm, hnode⟩
    exact ⟨hm, h.owns_of_mountsNode hm hv hnode⟩
  · intro ⟨hm, hown⟩
    exact ⟨hm, (hown.mountsNode_iff _).2 rfl⟩

/-- A staged device is new at its staging path. -/
theorem Orderly.stage {naming : TextNaming} (h : Orderly o w.mounts.entries) {r : StageRequest}
    (hmay : o.May naming w (.stage r)) {outcome : Except Refusal Unit} {w' : MemoryWorld}
    (heffect : StageEffect naming r w outcome w') : Orderly o w'.mounts.entries := by
  have hvolume : r.volume ∈ o.volumes := hmay.volume
  have hstaging : r.staging = o.staging r.volume := hmay.allows
  cases heffect with
  | failed e => exact h
  | present ready mounted fits => exact h
  | @mounted d plan ready unmounted =>
    have hnode : d.node = o.node r.volume := hmay.settled d ready.device
    rw [hnode] at unmounted
    show Orderly o (w.mounts.mountBy plan _ r.staging).entries
    rw [MemoryTable.nodeOf_link ready.device, MemoryTable.entries_mountBy]
    refine h.insert (v := r.volume) ⟨hvolume, hnode, hnode, ?_⟩ ?_ ?_
    · show r.staging ∈ _
      rw [hstaging]
      exact o.staging_mem _
    · intro m hm hpath
      have hown : o.Owns r.volume m := by
        refine h.owns_of_path hm hvolume ?_
        rw [hpath]
        show r.staging ∈ _
        rw [hstaging]
        exact o.staging_mem _
      have hmem := (h.mem_entriesOf_iff hvolume).2 ⟨hm, hown⟩
      rw [unmounted] at hmem
      exact List.not_mem_nil hmem
    · exact ⟨_, List.mem_append_right _ (List.mem_singleton_self _), hstaging⟩

/-- The one mount of an unstaged device is what its staging path loses. -/
theorem Orderly.unstage (h : Orderly o w.mounts.entries) {r : UnstageRequest}
    (hmay : o.May naming w (.unstage r)) {outcome : Except Refusal Unit} {w' : MemoryWorld}
    (heffect : UnstageEffect naming r w outcome w') : Orderly o w'.mounts.entries := by
  have hvolume : r.volume ∈ o.volumes := hmay.volume
  have hstaging : r.staging = o.staging r.volume := hmay.allows
  cases heffect with
  | failed e => exact h
  | absent ready unmounted => exact h
  | @unmounted d m ready single source path =>
    have hnode : d.node = o.node r.volume := hmay.settled d ready.device
    refine h.popTimes r.staging 1 fun v x hx hv hpath => ?_
    -- nothing of the volume is left, since its one mount was what lay at the path
    have hsame : v = r.volume := by
      refine o.paths_disjoint v hv.volume _ hvolume _ (o.staging_mem v) ?_
      rw [hpath, hstaging]
      exact o.staging_mem _
    subst hsame
    have hsub := (MemoryTable.popTimes_sublist r.staging 1 w.mounts.entries).subset hx
    have hsingle := (h.mem_entriesOf_iff hvolume).2 ⟨hsub, hv⟩
    rw [← hnode, single] at hsingle
    obtain rfl := List.mem_singleton.1 hsingle
    have hat : x ∈ (MemoryTable.popTimes r.staging 1 w.mounts.entries).filter
        (·.path == r.staging) := List.mem_filter.2 ⟨hx, by simpa using path⟩
    rw [MemoryTable.filter_path_popTimes, List.rdrop,
      Nat.sub_eq_zero_of_le (h.length_filter_path_le _)] at hat
    exact List.not_mem_nil hat

/-- A bind shows the staging mount of the volume, and its target was free. -/
theorem Orderly.publish (h : Orderly o w.mounts.entries) {r : PublishRequest}
    (hmay : o.May naming w (.publish r)) {outcome : Except Refusal Unit} {w' : MemoryWorld}
    (heffect : PublishEffect naming r w outcome w') : Orderly o w'.mounts.entries := by
  obtain ⟨hstaging, htarget⟩ : r.staging = o.staging r.volume ∧ r.target ∈ o.targets r.volume :=
    hmay.allows
  have hvolume : r.volume ∈ o.volumes := hmay.volume
  cases heffect with
  | failed e tree made => exact h
  | present ready published fits => exact h
  | @bound d plan tree ready unpublished staged =>
    have hnode : d.node = o.node r.volume := hmay.settled d ready.device
    rw [hnode] at unpublished staged
    obtain ⟨m, hm⟩ := List.exists_mem_of_ne_nil _ staged
    obtain ⟨hm, hown⟩ := (h.mem_entriesOf_iff hvolume).1 hm
    obtain ⟨s, hs, hpath⟩ := h.staged r.volume m hm hown
    have hsown : o.Owns r.volume s := by
      refine h.owns_of_path hs hvolume ?_
      rw [hpath]
      exact o.staging_mem _
    have hbind := MemoryTable.bindEntry_of_unique (s := w.mounts) hs (hpath.trans hstaging.symm)
      (h.length_filter_path_le _) r.target (Handler.publishFlags plan.flags r.readOnly)
    show Orderly o (w.mounts.entries ++ [_])
    rw [hbind]
    refine h.insert (v := r.volume) ⟨hvolume, hsown.device, hsown.source, ?_⟩ ?_ ?_
    · exact Ownership.target_mem htarget
    · intro m' hm' hat
      have hown' : o.Owns r.volume m' := by
        refine h.owns_of_path hm' hvolume ?_
        rw [hat]
        exact Ownership.target_mem htarget
      -- a second mount of the device at the target would have been found there
      refine Handler.published?_ne_none ((h.mem_entriesOf_iff hvolume).2 ⟨hs, hsown⟩)
        ((h.mem_entriesOf_iff hvolume).2 ⟨hm', hown'⟩) ?_ hat unpublished
      rw [hpath]
      exact Ownership.target_ne_staging hvolume hvolume htarget
    · exact ⟨s, List.mem_append_left _ hs, hpath⟩

/-- A target has no staging path to lose. -/
theorem Orderly.unpublish (h : Orderly o w.mounts.entries) {r : UnpublishRequest}
    (hmay : o.May naming w (.unpublish r)) {outcome : Except Refusal Unit} {w' : MemoryWorld}
    (heffect : UnpublishEffect naming r w outcome w') : Orderly o w'.mounts.entries := by
  have htarget : r.target ∈ o.targets r.volume := hmay.allows
  have hpop : ∀ n, Orderly o (MemoryTable.popTimes r.target n w.mounts.entries) := fun n =>
    h.popTimes r.target n fun v _ _ hv => Ownership.target_ne_staging hmay.volume hv.volume htarget
  cases heffect with
  | failed e => exact h
  | absent ready none => exact h
  | stuck ready some kept => exact hpop _
  | unmounted ready some removed => exact hpop _

/-- **Every call that may be made keeps the table orderly**, whatever comes of it. -/
theorem Orderly.call {naming : TextNaming} (h : Orderly o w.mounts.entries) {r : Call}
    (hmay : o.May naming w r) :
    Orderly o (r.run MemoryTable.system naming w).2.mounts.entries := by
  cases r with
  | stage r => exact h.stage hmay (stage_effect naming r w)
  | unstage r => exact h.unstage hmay (unstage_effect naming r w)
  | publish r => exact h.publish hmay (publish_effect naming r w)
  | unpublish r => exact h.unpublish hmay (unpublish_effect naming r w)

/-- A published volume has two mounts, so a call to unstage it does nothing. -/
theorem UnstageEffect.entries_eq {r : UnstageRequest} {w' : MemoryWorld}
    {outcome : Except Refusal Unit} (heffect : UnstageEffect naming r w outcome w')
    (hmay : o.May naming w (.unstage r)) {s m : MountEntry} (hs : s ∈ w.mounts.entries)
    (hsown : o.Owns r.volume s) (hm : m ∈ w.mounts.entries) (hmown : o.Owns r.volume m)
    (hne : m ≠ s) : w'.mounts.entries = w.mounts.entries := by
  cases heffect with
  | failed e => rfl
  | absent ready unmounted => rfl
  | @unmounted d x ready single source path =>
    have hnode : d.node = o.node r.volume := hmay.settled d ready.device
    have hall : ∀ y ∈ w.mounts.entries, o.Owns r.volume y → y = x := by
      intro y hy hown
      have hmem : y ∈ w.mounts.entriesOf d.node :=
        List.mem_filter.2 ⟨hy, (hown.mountsNode_iff _).2 hnode.symm⟩
      rw [single] at hmem
      exact List.mem_singleton.1 hmem
    exact absurd ((hall m hm hmown).trans (hall s hs hsown).symm) hne

/-- No call takes the staging mount of a published volume away. -/
theorem Ownership.May.keeps_staging {r : Call} (hmay : o.May naming w r) {v : String}
    {s m : MountEntry} (hs : s ∈ w.mounts.entries) (hsown : o.Owns v s)
    (hspath : s.path = o.staging v) (hm : m ∈ w.mounts.entries) (hmown : o.Owns v m)
    (hmpath : m.path ∈ o.targets v) :
    s ∈ (r.run MemoryTable.system naming w).2.mounts.entries := by
  cases r with
  | stage r => exact (stage_effect naming r w).subset hs
  | publish r => exact (publish_effect naming r w).subset hs
  | unstage r =>
    have hstaging : r.staging = o.staging r.volume := hmay.allows
    by_cases hv : v = r.volume
    · subst hv
      have hne : m ≠ s := by
        rintro rfl
        exact o.staging_not_mem _ hsown.volume (hspath ▸ hmpath)
      rw [(unstage_effect naming r w).entries_eq hmay hs hsown hm hmown hne]
      exact hs
    · obtain ⟨n, hn⟩ := (unstage_effect naming r w).entries
      rw [hn]
      refine MemoryTable.mem_popTimes_of_path_ne hs (fun hpath => hv ?_) n
      refine hsown.volume_eq hmay.volume ?_
      rw [hpath, hstaging]
      exact o.staging_mem _
  | unpublish r =>
    obtain ⟨n, hn⟩ := (unpublish_effect naming r w).entries
    rw [hn]
    refine MemoryTable.mem_popTimes_of_path_ne hs ?_ n
    rw [hspath]
    exact Ownership.target_ne_staging hmay.volume hsown.volume hmay.allows

end Calls

/-! ## 4. Every reachable table -/

section Reached

variable {o : Ownership} {naming : TextNaming} {start w : MemoryWorld}

theorem Reachable.orderly (h : Reachable naming (o.May naming) start w)
    (hempty : start.mounts.entries = []) : Orderly o w.mounts.entries := by
  refine h.keeps ?_ fun _ _ hmay ho => ho.call hmay
  rw [hempty]
  exact Orderly.nil o

/-- A volume has one mount at most at each of its paths. -/
theorem Orderly.countP_entriesOf_le (h : Orderly o w.mounts.entries) (node p : String) :
    (w.mounts.entriesOf node).countP (·.path == p) ≤ 1 := by
  have hle : (w.mounts.entriesOf node).countP (·.path == p) ≤
      w.mounts.entries.countP (·.path == p) := List.filter_sublist.countP_le
  rw [List.countP_eq_length_filter (l := w.mounts.entries)] at hle
  exact hle.trans (h.length_filter_path_le p)

/-- What a volume keeps to over its life. -/
structure Ownership.Kept (o : Ownership) (naming : DeviceNaming) (w : MemoryWorld) (v : String) :
    Prop where
  /-- It is not mounted, or once at its staging path, at most once at each target, and nowhere
      else. -/
  mounts : w.mounts.entriesOf (o.node v) = [] ∨
    (w.mounts.entriesOf (o.node v)).countP (·.path == o.staging v) = 1 ∧
      (∀ t ∈ o.targets v, (w.mounts.entriesOf (o.node v)).countP (·.path == t) ≤ 1) ∧
      ∀ m ∈ w.mounts.entriesOf (o.node v), m.path ∈ o.paths v
  /-- Its paths hold nothing else. -/
  alone : ∀ p ∈ o.paths v, ∀ m ∈ w.mounts.entriesAt p, m.device = o.node v ∧ m.source = o.node v
  /-- While it is published, no call takes its staging mount away. -/
  staging : ∀ r, o.May naming w r →
    (∃ m ∈ w.mounts.entriesOf (o.node v), m.path ∈ o.targets v) →
    ∃ s ∈ (r.run MemoryTable.system naming w).2.mounts.entriesOf (o.node v), s.path = o.staging v

/-- **The mounts of volumes over their lives.** Whatever calls were made on an empty table, in
    whatever order and with whatever refusals in between, every entry belongs to a volume, and every
    volume keeps to its shape. -/
theorem lifecycle (h : Reachable naming (o.May naming) start w)
    (hempty : start.mounts.entries = []) :
    (∀ m ∈ w.mounts.entries, ∃ v, o.Owns v m) ∧ ∀ v ∈ o.volumes, o.Kept naming w v := by
  have ho := h.orderly hempty
  refine ⟨ho.owned, fun v hv => ⟨?mounts, ?alone, ?staging⟩⟩
  case mounts =>
    by_cases hnil : w.mounts.entriesOf (o.node v) = []
    · exact .inl hnil
    · obtain ⟨m, hm⟩ := List.exists_mem_of_ne_nil _ hnil
      obtain ⟨hm, hown⟩ := (ho.mem_entriesOf_iff hv).1 hm
      obtain ⟨s, hs, hpath⟩ := ho.staged v m hm hown
      have hsown : o.Owns v s := ho.owns_of_path hs hv (hpath ▸ o.staging_mem v)
      refine .inr ⟨?_, fun t _ => ho.countP_entriesOf_le _ t, ?_⟩
      · have hpos : 0 < (w.mounts.entriesOf (o.node v)).countP (·.path == o.staging v) :=
          List.countP_pos_iff.2 ⟨s, (ho.mem_entriesOf_iff hv).2 ⟨hs, hsown⟩, by simpa using hpath⟩
        exact Nat.le_antisymm (ho.countP_entriesOf_le _ _) hpos
      · intro m hm
        exact ((ho.mem_entriesOf_iff hv).1 hm).2.path
  case alone =>
    intro p hp m hm
    obtain ⟨hm, hpath⟩ := List.mem_filter.1 hm
    have hown : o.Owns v m := ho.owns_of_path hm hv (by rw [beq_iff_eq.1 hpath]; exact hp)
    exact ⟨hown.device, hown.source⟩
  case staging =>
    intro r hmay ⟨m, hm, hmpath⟩
    obtain ⟨hm, hmown⟩ := (ho.mem_entriesOf_iff hv).1 hm
    obtain ⟨s, hs, hpath⟩ := ho.staged v m hm hmown
    have hsown : o.Owns v s := ho.owns_of_path hs hv (hpath ▸ o.staging_mem v)
    refine ⟨s, ?_, hpath⟩
    exact ((ho.call hmay).mem_entriesOf_iff hv).2
      ⟨hmay.keeps_staging hs hsown hpath hm hmown hmpath, hsown⟩

/-- On the small machine the first volume is staged at `/s` and published at `/p`, the second one is
    staged at `/t`. -/
def smallOwnership : Ownership where
  volumes := {"a", "b"}
  node v := if v = "a" then "/d/m" else "/d/n"
  staging v := if v = "a" then "/s" else "/t"
  targets v := if v = "a" then {"/p"} else ∅
  node_inj := by simp
  staging_not_mem := by simp
  paths_disjoint := by simp

/-- The small machine with the first volume published and the second one staged. -/
def publishedWorld : MemoryWorld :=
  (Call.runAll smallNaming
    [.stage ⟨"a", "/s", writer []⟩, .stage ⟨"b", "/t", writer []⟩,
      .publish ⟨"a", "/s", "/p", writer [], false⟩] smallWorld).2

theorem lifecycle_publishedWorld :
    publishedWorld.mounts.entries.map (·.path) = ["/s", "/t", "/p"] ∧
      (∀ m ∈ publishedWorld.mounts.entries, ∃ v, smallOwnership.Owns v m) ∧
      ∀ v ∈ smallOwnership.volumes, smallOwnership.Kept smallNaming publishedWorld v := by
  have hmay : ∀ {w : MemoryWorld} {r : Call}, w.tree = smallTree →
      r.volume ∈ smallOwnership.volumes → smallOwnership.Allows r →
      smallOwnership.May smallNaming w r := by
    intro w r htree hvolume hallows
    refine ⟨hvolume, ?_, hallows⟩
    intro d hd
    rw [htree] at hd
    rcases hvolume with hv | hv
    · rw [hv, device_smallTree_a] at hd
      cases hd
      rw [hv]
      rfl
    · rw [hv, device_smallTree_b] at hd
      cases hd
      rw [hv]
      rfl
  have hreach : Reachable smallNaming (smallOwnership.May smallNaming) smallWorld
      publishedWorld := by
    refine .call (.call (.call .start (.stage ⟨"a", "/s", writer []⟩) (hmay rfl ?_ rfl))
      (.stage ⟨"b", "/t", writer []⟩) (hmay ?_ ?_ rfl))
      (.publish ⟨"a", "/s", "/p", writer [], false⟩) (hmay ?_ ?_ ⟨rfl, ?_⟩)
    · exact .inl rfl
    · decide +kernel
    · exact .inr rfl
    · decide +kernel
    · exact .inl rfl
    · exact rfl
  exact ⟨by decide +kernel, lifecycle hreach rfl⟩

end Reached

end VolumeNode
