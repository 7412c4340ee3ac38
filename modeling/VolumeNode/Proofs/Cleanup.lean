import VolumeNode.Proofs.Exposure
import VolumeNode.Proofs.FileTree.Removal
import VolumeNode.Proofs.Isolation

/-!
# What becomes of target directories

Publishing makes its target before it knows whether it can bind. Unpublishing removes the directory
only if it finds a mount of the device there.

* A mount stays at its path while no call is made that takes a volume off this path, whatever fails
  and whatever others do to the file tree (`Call.countAt_run`, `Reachable.countAt`).
* **`Reachable.cleanup`**: a call to unpublish that succeeds leaves nothing at its target, if the
  device has come to be mounted there and no call has taken a volume off since. It changes nothing
  if the device is not mounted there.
* `Reachable.cleanup_published` is the case of a target where the volume was published.
* `publish_leaves_directory`: the directory that a call to publish made before it failed stays.
-/

namespace VolumeNode

open MemoryTable

variable {naming : DeviceNaming}

/-! ## 1. Mounts stay -/

namespace MemoryTable

/-- How many entries of a table are mounts of a device at a path. -/
def mountsAt (path : String) (d : Device) (rs : List MountEntry) : Nat :=
  (rs.filter (·.path == path)).countP (Handler.shows · d)

theorem countAt_eq (s : MemoryTable) (path : String) (d : Device) :
    s.countAt path d = mountsAt path d s.entries := rfl

theorem mountsAt_append_le (path : String) (d : Device) (rs new : List MountEntry) :
    mountsAt path d rs ≤ mountsAt path d (rs ++ new) := by
  unfold mountsAt
  rw [List.filter_append, List.countP_append]
  exact Nat.le_add_right _ _

/-- Unmounts of one path take nothing off another one. -/
theorem mountsAt_popTimes {path other : String} (hne : path ≠ other) (n : Nat) (d : Device)
    (rs : List MountEntry) : mountsAt path d (popTimes other n rs) = mountsAt path d rs := by
  unfold mountsAt
  rw [filter_path_popTimes_of_ne hne]

end MemoryTable

/-- A call that takes no volume off a path takes no mount off it. -/
theorem Call.countAt_run (naming : DeviceNaming) (w : MemoryWorld) {r : Call} {path : String}
    (h : r.released ≠ some path) (d : Device) :
    w.mounts.countAt path d ≤ (r.run MemoryTable.system naming w).2.mounts.countAt path d := by
  rw [countAt_eq, countAt_eq]
  cases r with
  | stage r =>
    cases hrun : (Call.stage r).run MemoryTable.system naming w with
    | mk outcome w' =>
      have heffect := stage_effect naming r w
      rw [hrun] at heffect
      cases heffect with
      | mounted ready unmounted =>
        rw [entries_mountBy]
        exact mountsAt_append_le _ _ _ _
      | _ => exact Nat.le_refl _
  | publish r =>
    cases hrun : (Call.publish r).run MemoryTable.system naming w with
    | mk outcome w' =>
      have heffect := publish_effect naming r w
      rw [hrun] at heffect
      cases heffect with
      | bound ready unpublished staged =>
        rw [entries_insert]
        exact mountsAt_append_le _ _ _ _
      | _ => exact Nat.le_refl _
  | unstage r =>
    have hne : path ≠ r.staging := fun heq => h (congrArg some heq.symm)
    obtain ⟨n, hn⟩ := (unstage_effect naming r w).entries
    rw [hn, mountsAt_popTimes hne]
  | unpublish r =>
    have hne : path ≠ r.target := fun heq => h (congrArg some heq.symm)
    obtain ⟨n, hn⟩ := (unpublish_effect naming r w).entries
    rw [hn, mountsAt_popTimes hne]

/-- A call takes no volume off a path. -/
def Sparing (path : String) (_ : MemoryWorld) (r : Call) : Prop :=
  r.released ≠ some path

/-- Mounts stay at a path in a course of calls that spare it. -/
theorem Reachable.countAt_le {path : String} {start w : MemoryWorld}
    (h : Reachable naming (Sparing path) start w) (d : Device) :
    start.mounts.countAt path d ≤ w.mounts.countAt path d :=
  h.keeps (P := fun rs => start.mounts.countAt path d ≤ mountsAt path d rs) (Nat.le_refl _)
    fun w _ hr hle => hle.trans (Call.countAt_run naming w hr d)

/-! ## 2. Unpublishing -/

/-- A call to unpublish that succeeds has removed its target, or there was nothing to do. -/
theorem UnpublishEffect.cleared {r : UnpublishRequest} {w w' : MemoryWorld}
    (h : UnpublishEffect naming r w (.ok ()) w') :
    ∃ d, naming.device w.tree r.volume = .ok d ∧
      (w.mounts.countAt r.target d ≠ 0 → w'.tree.lstat r.target = .error .noEntry) ∧
      (w.mounts.countAt r.target d = 0 → w' = w) := by
  cases h with
  | @absent d ready none => exact ⟨d, ready.device, fun hsome => absurd none hsome, fun _ => rfl⟩
  | @unmounted d tree ready some removed =>
    refine ⟨d, ready.device, fun _ => ?_, fun hnone => absurd hnone some⟩
    have hplain : PlainPath.check r.target = .ok () := by
      have htarget := ready.target
      unfold Handler.targetCheck at htarget
      split at htarget
      · cases htarget
      · exact htarget
    exact FileTree.lstat_of_removed ((PlainPath.check_eq_ok_iff _).1 hplain).rooted removed

theorem unpublish_cleanup {r : UnpublishRequest} {w w' : MemoryWorld}
    (hok : (Call.unpublish r).run MemoryTable.system naming w = (.ok (), w')) :
    ∃ d, naming.device w.tree r.volume = .ok d ∧
      (w.mounts.countAt r.target d ≠ 0 → w'.tree.lstat r.target = .error .noEntry) ∧
      (w.mounts.countAt r.target d = 0 → w' = w) := by
  have heffect := unpublish_effect naming r w
  rw [hok] at heffect
  exact heffect.cleared

/-- **A target where the device has come to be mounted is gone once the volume is unpublished.** No
    call may take a volume off the target in between; then it is for the call to unpublish to do. A
    call that finds no mount of the device there succeeds as well, and leaves all as it is. -/
theorem Reachable.cleanup {r : UnpublishRequest} {start w w' : MemoryWorld}
    (hreach : Reachable naming (Sparing r.target) start w)
    (hok : (Call.unpublish r).run MemoryTable.system naming w = (.ok (), w')) :
    ∃ d, naming.device w.tree r.volume = .ok d ∧
      (start.mounts.countAt r.target d ≠ 0 → w'.tree.lstat r.target = .error .noEntry) ∧
      (w.mounts.countAt r.target d = 0 → w' = w) := by
  obtain ⟨d, hd, hgone, hsame⟩ := unpublish_cleanup hok
  refine ⟨d, hd, fun hstart => hgone fun hzero => hstart ?_, hsame⟩
  exact Nat.le_zero.1 (hzero ▸ hreach.countAt_le d)

/-! ## 3. After a publication -/

/-- A path that shows a device has a mount of it. -/
theorem countAt_ne_zero_of_exposes {s : MemoryTable} {path : String} {d : Device}
    {readOnly : Bool} (h : s.Exposes path d.node readOnly) : s.countAt path d ≠ 0 := by
  obtain ⟨m, hm, hnode, _⟩ := h
  have hmem : m ∈ s.entriesAt path := List.mem_of_getLast? hm
  exact Nat.pos_iff_ne_zero.1 (List.countP_pos_iff.2 ⟨m, hmem, Handler.shows_of_mountsNode hnode⟩)

/-- A target where the volume was published is gone once it is unpublished. What the publication
    took for granted is that its staging path shows the volume. -/
theorem Reachable.cleanup_published {q : PublishRequest} {w₀ w₁ w w' : MemoryWorld} {d : Device}
    (hpublished : (Call.publish q).run MemoryTable.system naming w₀ = (.ok (), w₁))
    (hd₀ : naming.device w₀.tree q.volume = .ok d) (hbacked : q.Backed w₀.mounts d)
    (hreach : Reachable naming (Sparing q.target) w₁ w)
    (hd : naming.device w.tree q.volume = .ok d)
    (hok : (Call.unpublish ⟨q.volume, q.target⟩).run MemoryTable.system naming w = (.ok (), w')) :
    w'.tree.lstat q.target = .error .noEntry := by
  have heffect := publish_effect naming q w₀
  rw [hpublished] at heffect
  obtain ⟨d₀, hd₀', hexposes⟩ := heffect.exposes_iff
  obtain rfl : d₀ = d := Except.ok.inj (hd₀'.symm.trans hd₀)
  obtain ⟨d₁, hd₁, hgone, _⟩ := unpublish_cleanup hok
  obtain rfl : d₁ = d₀ := Except.ok.inj (hd₁.symm.trans hd)
  have hmounted := countAt_ne_zero_of_exposes (hexposes.2 hbacked)
  exact hgone fun hzero => hmounted (Nat.le_zero.1 (hzero ▸ hreach.countAt_le d₁))

/-! ## 4. On the small machine -/

/-- The second volume is taken off its staging directory, then the first one off `/p`: the directory
    that was made for it is gone. -/
theorem cleanup_publishedWorld :
    ((Call.unpublish ⟨"a", "/p"⟩).run MemoryTable.system smallNaming
      ((Call.unstage ⟨"b", "/t"⟩).run MemoryTable.system smallNaming
        publishedWorld).2).2.tree.lstat "/p" = .error .noEntry := by
  have hreach : Reachable smallNaming (Sparing "/p") publishedWorld
      ((Call.unstage ⟨"b", "/t"⟩).run MemoryTable.system smallNaming publishedWorld).2 :=
    .call .start (.unstage ⟨"b", "/t"⟩) (by simp [Sparing, Call.released])
  have hok : ((Call.unpublish ⟨"a", "/p"⟩).run MemoryTable.system smallNaming
      ((Call.unstage ⟨"b", "/t"⟩).run MemoryTable.system smallNaming publishedWorld).2).1 =
      .ok () := by decide +kernel
  have htree : smallNaming.device ((Call.unstage ⟨"b", "/t"⟩).run MemoryTable.system smallNaming
      publishedWorld).2.tree "a" = .ok ⟨"/l/xa", "/d/m", "xa"⟩ := by decide +kernel
  obtain ⟨d, hd, hgone, _⟩ := Reachable.cleanup hreach (Prod.ext hok rfl)
  rw [htree] at hd
  cases hd
  exact hgone (by decide +kernel)

/-- A volume that is not staged cannot be published, but the directory was made by then. Taking the
    volume off that target is a success, and the directory stays. -/
theorem publish_leaves_directory :
    ¬ ∀ (naming : DeviceNaming) (start made w' : MemoryWorld) (q : PublishRequest)
        (r : UnpublishRequest), q.volume = r.volume → q.target = r.target →
        ((Call.publish q).run MemoryTable.system naming start).2 = made →
        start.tree.makeDirectory q.target Handler.targetMode = .ok made.tree →
        (Call.unpublish r).run MemoryTable.system naming made = (.ok (), w') →
        w'.tree.lstat r.target = .error .noEntry := by
  intro h
  have hmade : smallTree.makeDirectory "/p" Handler.targetMode =
      .ok ((Call.publish ⟨"a", "/s", "/p", writer [], false⟩).run MemoryTable.system smallNaming
        smallWorld).2.tree := by decide +kernel
  have hok : ((Call.unpublish ⟨"a", "/p"⟩).run MemoryTable.system smallNaming
      ((Call.publish ⟨"a", "/s", "/p", writer [], false⟩).run MemoryTable.system smallNaming
        smallWorld).2).1 = .ok () := by decide +kernel
  have hgone := h smallNaming smallWorld _ _ ⟨"a", "/s", "/p", writer [], false⟩ ⟨"a", "/p"⟩ rfl rfl
    rfl hmade (Prod.ext hok rfl)
  exact absurd hgone (by decide +kernel)

end VolumeNode
