import VolumeNode.Mount.MemoryTable
import VolumeNode.Volume.Access
import VolumeNode.Proofs.Volume.Device

/-!
# The entries that mounts make

* `optionsOf` gives every mount exactly one of `ro` and `rw`: `ro` if the flags hold it, whatever
  else they hold (`ro_mem_optionsOf`, `rw_mem_optionsOf`, `count_optionsOf`).
* `mountBy` is the table with a device mounted by a plan. **Its entry carries the option of the
  plan unless the plan is for writing and its flags hold `ro`** (`carries_mountBy_iff`).
* `entriesOf` are the entries of a device.
-/

namespace VolumeNode

/-- The flags of a mount by a plan. -/
def MountPlan.mountFlags (p : MountPlan) : List String :=
  if p.readOnly then p.flags ++ ["ro"] else p.flags

/-- The request that mounts by a plan. A device for reading only is never formatted. -/
def MountPlan.request (p : MountPlan) : MountRequest :=
  if p.readOnly then .mount else .mountFormatted

/-- A plan for writing whose flags ask for reading only. -/
def MountPlan.Contradictory (p : MountPlan) : Prop :=
  p.readOnly = false ∧ "ro" ∈ p.flags

instance (p : MountPlan) : Decidable p.Contradictory :=
  inferInstanceAs (Decidable (_ ∧ _))

namespace MemoryTable

/-! ## 1. Options -/

theorem ro_mem_optionsOf (flags : List String) : "ro" ∈ optionsOf flags ↔ "ro" ∈ flags := by
  unfold optionsOf
  by_cases h : "ro" ∈ flags
  · simp [h]
  · simp [h]

theorem rw_mem_optionsOf (flags : List String) : "rw" ∈ optionsOf flags ↔ "ro" ∉ flags := by
  unfold optionsOf
  by_cases h : "ro" ∈ flags
  · simp [h]
  · simp [h]

/-- `ro` and `rw` come once together, whatever the flags are. -/
theorem count_optionsOf (flags : List String) :
    (optionsOf flags).count "ro" + (optionsOf flags).count "rw" = 1 := by
  have hro : (flags.filter fun f => f ≠ "ro" ∧ f ≠ "rw").count "ro" = 0 :=
    List.count_eq_zero.2 (by simp)
  have hrw : (flags.filter fun f => f ≠ "ro" ∧ f ≠ "rw").count "rw" = 0 :=
    List.count_eq_zero.2 (by simp)
  unfold optionsOf
  rw [List.count_cons, List.count_cons, hro, hrw]
  by_cases h : "ro" ∈ flags <;> simp [h]

/-! ## 2. Entries of a device -/

/-- The entries that mount a device. -/
def entriesOf (s : MemoryTable) (node : String) : List MountEntry :=
  s.entries.filter (·.mountsNode node)

theorem mem_entries_of_single {s : MemoryTable} {node : String} {m : MountEntry}
    (h : s.entriesOf node = [m]) : m ∈ s.entries := by
  have hm : m ∈ s.entriesOf node := by
    rw [h]
    exact List.mem_singleton_self m
  exact (List.mem_filter.1 hm).1

/-- The table with a device mounted by a plan. -/
def mountBy (s : MemoryTable) (plan : MountPlan) (node staging : String) : MemoryTable :=
  (if plan.readOnly then s else s.formatIfBlank node plan.fsType).insert
    (deviceEntry node staging plan.fsType plan.mountFlags)

@[simp] theorem entries_insert (s : MemoryTable) (r : MountEntry) :
    (s.insert r).entries = s.entries ++ [r] := rfl

@[simp] theorem entries_formatIfBlank (s : MemoryTable) (node fsType : String) :
    (s.formatIfBlank node fsType).entries = s.entries := by
  unfold formatIfBlank
  split <;> rfl

@[simp] theorem refused_formatIfBlank (s : MemoryTable) (node fsType : String) :
    (s.formatIfBlank node fsType).refused = s.refused := by
  unfold formatIfBlank
  split <;> rfl

@[simp] theorem entries_mountBy (s : MemoryTable) (plan : MountPlan) (node staging : String) :
    (s.mountBy plan node staging).entries =
      s.entries ++ [deviceEntry node staging plan.fsType plan.mountFlags] := by
  unfold mountBy
  split <;> simp

@[simp] theorem refused_mountBy (s : MemoryTable) (plan : MountPlan) (node staging : String) :
    (s.mountBy plan node staging).refused = s.refused := by
  unfold mountBy insert
  split <;> simp

/-- The entry of a mounted device is one of this device, and of no other. -/
@[simp] theorem mountsNode_deviceEntry (node target fsType : String) (flags : List String)
    (other : String) :
    (deviceEntry node target fsType flags).mountsNode other = (node == other) := by
  rw [Bool.eq_iff_iff, MountEntry.mountsNode_of_source_eq_device rfl]
  exact beq_iff_eq.symm

/-- The node behind the link of a device is the device's. -/
theorem nodeOf_link {naming : TextNaming} {t : FileTree} {volume : String} {d : Device}
    (h : naming.device t volume = .ok d) : nodeOf t d.link = d.node := by
  unfold nodeOf
  rw [TextNaming.canonical_link h]

theorem entriesOf_insert (s : MemoryTable) (r : MountEntry) (node : String) :
    (s.insert r).entriesOf node =
      s.entriesOf node ++ if r.mountsNode node then [r] else [] := by
  unfold entriesOf
  rw [entries_insert, List.filter_append]
  by_cases h : r.mountsNode node = true <;> simp [h]

theorem entriesOf_mountBy (s : MemoryTable) (plan : MountPlan) (node staging other : String) :
    (s.mountBy plan node staging).entriesOf other =
      s.entriesOf other ++
        if node = other then [deviceEntry node staging plan.fsType plan.mountFlags] else [] := by
  unfold entriesOf
  rw [entries_mountBy, List.filter_append]
  by_cases h : node = other <;> simp [h]

/-- A mount formats a device once at most. -/
theorem timesFormatted_mountBy_le (s : MemoryTable) (plan : MountPlan) (node staging : String) :
    (s.mountBy plan node staging).timesFormatted node ≤ s.timesFormatted node + 1 := by
  have hinsert : ∀ t : MemoryTable, ∀ m, (t.insert m).timesFormatted node = t.timesFormatted node :=
    fun _ _ => rfl
  unfold mountBy
  rw [hinsert]
  by_cases hro : plan.readOnly = true
  · rw [if_pos hro]
    exact Nat.le_succ _
  · rw [if_neg hro]
    unfold formatIfBlank
    cases s.filesystem? node with
    | some fsType => exact Nat.le_succ _
    | none => simp [timesFormatted]

/-- **A device mounted by a plan carries the option of the plan unless the flags contradict it.** -/
theorem carries_mountBy_iff (plan : MountPlan) (node staging fsType : String) :
    (deviceEntry node staging fsType plan.mountFlags).carries plan.accessOption = true ↔
      ¬ plan.Contradictory := by
  rw [MountEntry.carries_iff]
  show plan.accessOption ∈ optionsOf plan.mountFlags ↔ _
  unfold MountPlan.accessOption MountPlan.mountFlags MountPlan.Contradictory
  cases hro : plan.readOnly with
  | true =>
    have h : "ro" ∈ optionsOf (plan.flags ++ ["ro"]) := by
      rw [ro_mem_optionsOf]
      exact List.mem_append_right _ (List.mem_singleton_self _)
    simpa [accessOption] using h
  | false => simpa [accessOption] using rw_mem_optionsOf plan.flags

end MemoryTable

end VolumeNode
