import VolumeNode.Proofs.Call.Course

/-!
# Failed calls and the mount table

A call that fails leaves the mount table, the filesystems and the counts of formats as they were.
The one exception is a call to unpublish whose target directory cannot be removed: by then it has
unmounted the target as often as the device was mounted there.

* `LosesTop` says that a path loses exactly so many entries, the last ones. This is what as many
  unmounts do, and nothing else is (`losesTop_iff`).
* `AllOrNothing` is what a call may do to the table. **`Call.allOrNothing_run`**: every call keeps
  to it, from every table and whatever requests are refused.
-/

namespace VolumeNode

namespace MemoryTable

/-! ## 1. The end of a table -/

/-- A path loses its last entries, so many of them, and the table loses nothing else. -/
def LosesTop (path : String) (n : Nat) (s s' : MemoryTable) : Prop :=
  ∃ below above, s.entries = below ++ above ∧ (above.filter (·.path == path)).length = n ∧
    s' = { s with entries := below ++ above.filter (·.path != path) }

/-- A table that has enough of some entries has an end with just so many. -/
theorem exists_split {p : MountEntry → Bool} {n : Nat} {rs : List MountEntry}
    (hn : n ≤ (rs.filter p).length) :
    ∃ below above, rs = below ++ above ∧ (above.filter p).length = n := by
  induction rs with
  | nil => exact ⟨[], [], rfl, (Nat.le_zero.1 hn).symm⟩
  | cons r rs ih =>
    by_cases hrest : n ≤ (rs.filter p).length
    · obtain ⟨below, above, rfl, hcount⟩ := ih hrest
      exact ⟨r :: below, above, rfl, hcount⟩
    · -- the whole list is just enough
      have hle : ((r :: rs).filter p).length ≤ (rs.filter p).length + 1 := by
        rw [List.filter_cons]
        split <;> simp
      exact ⟨[], r :: rs, rfl, by omega⟩

/-- **A path loses its last entries by unmounts, and in no other way.** -/
theorem losesTop_iff {path : String} {n : Nat} {s s' : MemoryTable} :
    LosesTop path n s s' ↔ n ≤ (s.entriesAt path).length ∧ s' = s.unmountTimes path n := by
  constructor
  · rintro ⟨below, above, hentries, rfl, rfl⟩
    unfold entriesAt unmountTimes
    rw [hentries, popTimes_split, List.filter_append, List.length_append]
    exact ⟨Nat.le_add_left _ _, rfl⟩
  · rintro ⟨hn, rfl⟩
    obtain ⟨below, above, hentries, hcount⟩ := exists_split hn
    refine ⟨below, above, hentries, hcount, ?_⟩
    unfold unmountTimes
    rw [hentries, ← hcount, popTimes_split]

/-- There are enough mounts at a path to take as many away as a device has there. -/
theorem losesTop_unmountTimes_countAt (s : MemoryTable) (path : String) (d : Device) :
    LosesTop path (s.countAt path d) s (s.unmountTimes path (s.countAt path d)) :=
  losesTop_iff.2 ⟨s.countAt_le path d, rfl⟩

end MemoryTable

open MemoryTable

/-! ## 2. Calls -/

/-- What a call may do to the mount table. -/
structure AllOrNothing (naming : DeviceNaming) (w : MemoryWorld) (r : Call)
    (outcome : Except Refusal Unit) (s : MemoryTable) : Prop where
  /-- A call that fails leaves the table as it was, but for a call to unpublish that has unmounted
      the target as often as the device was mounted there and fails to remove the directory. -/
  failed : ∀ e, outcome = .error e → s = w.mounts ∨
    ∃ q d fault, r = .unpublish q ∧ naming.device w.tree q.volume = .ok d ∧
      1 ≤ w.mounts.countAt q.target d ∧
      LosesTop q.target (w.mounts.countAt q.target d) w.mounts s ∧
      w.tree.removeDirectory q.target = .error fault ∧
      e = .directoryNotRemoved q.target fault
  /-- However a call to unpublish ends, it has unmounted the target as often as the device was
      mounted there, or not at all. -/
  unpublished : ∀ q, r = .unpublish q → s = w.mounts ∨
    ∃ d, naming.device w.tree q.volume = .ok d ∧
      LosesTop q.target (w.mounts.countAt q.target d) w.mounts s

section Effects

variable {naming : DeviceNaming} {w w' : MemoryWorld} {e : Refusal}

theorem StageEffect.mounts_of_error {r : StageRequest} (h : StageEffect naming r w (.error e) w') :
    w'.mounts = w.mounts := by
  cases h with
  | failed e => rfl

theorem UnstageEffect.mounts_of_error {r : UnstageRequest}
    (h : UnstageEffect naming r w (.error e) w') : w'.mounts = w.mounts := by
  cases h with
  | failed e => rfl

/-- A target may have been made, but that is no matter of the mount table. -/
theorem PublishEffect.mounts_of_error {r : PublishRequest}
    (h : PublishEffect naming r w (.error e) w') : w'.mounts = w.mounts := by
  cases h with
  | failed e tree made => rfl

theorem UnpublishEffect.allOrNothing {r : UnpublishRequest} {outcome : Except Refusal Unit}
    (h : UnpublishEffect naming r w outcome w') :
    AllOrNothing naming w (.unpublish r) outcome w'.mounts := by
  cases h with
  | failed e => exact ⟨fun _ _ => .inl rfl, fun _ _ => .inl rfl⟩
  | absent ready none => exact ⟨fun _ _ => .inl rfl, fun _ _ => .inl rfl⟩
  | @stuck d fault ready some kept =>
    have hloses := losesTop_unmountTimes_countAt w.mounts r.target d
    constructor
    case failed =>
      intro e he
      cases he
      exact .inr ⟨r, d, fault, rfl, ready.device, Nat.one_le_iff_ne_zero.2 some, hloses, kept, rfl⟩
    case unpublished =>
      intro q hq
      cases hq
      exact .inr ⟨d, ready.device, hloses⟩
  | @unmounted d tree ready some removed =>
    constructor
    case failed => exact nofun
    case unpublished =>
      intro q hq
      cases hq
      exact .inr ⟨d, ready.device, losesTop_unmountTimes_countAt w.mounts r.target d⟩

end Effects

/-- **A call does all that it is to do to the mount table, or nothing.** -/
theorem Call.allOrNothing_run (naming : DeviceNaming) (r : Call) (w : MemoryWorld) :
    AllOrNothing naming w r (r.run MemoryTable.system naming w).1
      (r.run MemoryTable.system naming w).2.mounts := by
  cases r with
  | stage r => exact ⟨fun e he => .inl (he ▸ stage_effect naming r w).mounts_of_error, nofun⟩
  | unstage r => exact ⟨fun e he => .inl (he ▸ unstage_effect naming r w).mounts_of_error, nofun⟩
  | publish r => exact ⟨fun e he => .inl (he ▸ publish_effect naming r w).mounts_of_error, nofun⟩
  | unpublish r => exact (unpublish_effect naming r w).allOrNothing

/-- The small machine with a directory in `/t`, on which two volumes are mounted. -/
def crowdedTarget : MemoryWorld where
  tree := { smallTree with entries := smallTree.entries ++ [([[0x74], [0x66]], .directory 0o755)] }
  mounts := { MemoryTable.empty with
    entries := [deviceEntry "/d/n" "/t" "ext4" [], deviceEntry "/d/m" "/s" "ext4" [],
      deviceEntry "/d/m" "/t" "ext4" []] }

/-- The volume is off its target although the call fails. -/
example : (Call.unpublish ⟨"a", "/t"⟩).run MemoryTable.system smallNaming crowdedTarget =
    (.error (.directoryNotRemoved "/t" .notEmpty),
      { crowdedTarget with mounts := { MemoryTable.empty with
        entries := [deviceEntry "/d/n" "/t" "ext4" [], deviceEntry "/d/m" "/s" "ext4" []] } }) := by
  decide +kernel

end VolumeNode
