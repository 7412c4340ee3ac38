import VolumeNode.Mount.ToolBench
import VolumeNode.Proofs.Call.Course
import VolumeNode.Proofs.Call.Opening
import VolumeNode.Proofs.Mount.Grammar

/-!
# Calls over a table that cannot be read

One bad line in the mount table of the machine stops every call, even if the line is about a mount
of somebody else. Nothing is mounted or unmounted on a part of the table.

* `ToolBench.exists_readTable_error`: a bench with a bad line in its table cannot read it.
* **`Call.fails_on_bad_line`**: every call over such a bench fails without an attempt to run a tool.
  A call that passes its checks fails as an internal error.
* `strangeTable` is such a table.
-/

namespace VolumeNode

theorem ToolBench.exists_readTable_error {b : ToolBench} {line : List Char}
    (hmem : line ∈ Text.lines b.table.toList) (hblank : Text.isBlankText line = false)
    (hbad : ¬ MountTable.IsMountLine line) : ∃ e, b.readTable = .error e := by
  obtain ⟨fault, hread⟩ := MountTable.exists_readTable_error hmem hblank hbad
  unfold ToolBench.readTable MountTable.read
  rw [hread]
  exact ⟨_, rfl⟩

namespace Call

/-- **A bad line anywhere in the table makes every call fail**, and the bench is left as it was: no
    tool is tried, and so none is counted. -/
theorem fails_on_bad_line (naming : DeviceNaming) (r : Call) {w : World ToolBench}
    {line : List Char} (hmem : line ∈ Text.lines w.mounts.table.toList)
    (hblank : Text.isBlankText line = false) (hbad : ¬ MountTable.IsMountLine line) :
    ∃ e, (r.run ToolBench.system naming w).1 = .error e ∧
      (r.run ToolBench.system naming w).2.mounts = w.mounts ∧
      ((∃ tree, r.checks naming w.tree = .ok tree) → e.code = .internal) := by
  obtain ⟨fault, hread⟩ := ToolBench.exists_readTable_error hmem hblank hbad
  cases hchecks : r.checks naming w.tree with
  | error e =>
    obtain ⟨tree, hrun⟩ := run_of_refused (m := ToolBench.system) hchecks
    rw [hrun]
    exact ⟨e, rfl, rfl, fun ⟨_, h⟩ => by cases h⟩
  | ok tree =>
    have hentries : ToolBench.system.entries tree w.mounts = (.error fault, w.mounts) := by
      rw [← hread]
      rfl
    rw [run_of_unreadable hchecks hentries]
    exact ⟨_, rfl, rfl, fun _ => rfl⟩

/-- A table whose first line is about a volume staged on `/s`. The second line is cut short. -/
def strangeTable : String :=
  "41 28 8:16 / /s rw - ext4 /d/m rw\n42 28 8:32 / /other rw - ext4\n"

/-- The volume is staged, as the first line says. It cannot be unstaged because of the second. -/
theorem unstage_fails_on_strangeTable :
    (Call.unstage ⟨"a", "/s"⟩).checks smallNaming smallTree = .ok smallTree ∧
      ∃ e, ((Call.unstage ⟨"a", "/s"⟩).run ToolBench.system smallNaming
          ⟨smallTree, .fresh strangeTable⟩).1 = .error e ∧
        ((Call.unstage ⟨"a", "/s"⟩).run ToolBench.system smallNaming
          ⟨smallTree, .fresh strangeTable⟩).2.mounts = .fresh strangeTable ∧
        ((∃ tree, (Call.unstage ⟨"a", "/s"⟩).checks smallNaming smallTree = .ok tree) →
          e.code = .internal) :=
  ⟨by decide +kernel,
    @fails_on_bad_line smallNaming (.unstage ⟨"a", "/s"⟩) ⟨smallTree, .fresh strangeTable⟩
      "42 28 8:32 / /other rw - ext4".toList (by decide +kernel) (by decide +kernel)
      (by decide +kernel)⟩

end Call

end VolumeNode
