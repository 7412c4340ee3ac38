import VolumeNode.Proofs.Call.Publication
import VolumeNode.Proofs.Call.Staging

/-!
# Courses of calls

* `Call.runAll` carries calls out one after another and keeps their outcomes. `Call.Succeed` says
  that all of them succeed.
* `Reachable` are the worlds that calls lead to, in any number and order, while kinds of mount
  requests are refused and allowed again and others change the file tree. Which calls may be made
  is a parameter.
* **`Reachable.keeps`**: what holds of the mount table at the start and is kept by every call that
  may be made holds of the table in every reachable world.
* `smallTree` is a machine with two attached volumes, for statements about single worlds.
-/

namespace VolumeNode

/-! ## 1. Calls one after another -/

/-- Carries calls out one after another. -/
def Call.runAll (naming : DeviceNaming) : List Call → MemoryWorld →
    List (Except Refusal Unit) × MemoryWorld
  | [], w => ([], w)
  | r :: rs, w =>
    let (outcome, w) := r.run MemoryTable.system naming w
    let (outcomes, w) := runAll naming rs w
    (outcome :: outcomes, w)

namespace Call

variable {naming : DeviceNaming} {w w' : MemoryWorld}

theorem runAll_cons {r : Call} {outcome : Except Refusal Unit}
    (h : r.run MemoryTable.system naming w = (outcome, w')) (rs : List Call) :
    runAll naming (r :: rs) w = (outcome :: (runAll naming rs w').1, (runAll naming rs w').2) := by
  rw [runAll, h]

theorem runAll_append {rs : List Call} {outcomes : List (Except Refusal Unit)}
    (h : runAll naming rs w = (outcomes, w')) (rs' : List Call) :
    runAll naming (rs ++ rs') w =
      (outcomes ++ (runAll naming rs' w').1, (runAll naming rs' w').2) := by
  induction rs generalizing w outcomes with
  | nil =>
    cases h
    rfl
  | cons r rs ih =>
    rw [runAll_cons rfl] at h
    cases h
    rw [List.cons_append, runAll_cons rfl, ih rfl]
    rfl

/-- A call that leaves the world as it is comes to the same every time. -/
theorem runAll_replicate {r : Call} {outcome : Except Refusal Unit}
    (h : r.run MemoryTable.system naming w = (outcome, w)) (n : Nat) :
    runAll naming (List.replicate n r) w = (List.replicate n outcome, w) := by
  induction n with
  | zero => rfl
  | succ n ih => rw [List.replicate_succ, runAll_cons h, ih, List.replicate_succ]

/-- All calls succeed, and lead to this world. -/
def Succeed (naming : DeviceNaming) (rs : List Call) (w w' : MemoryWorld) : Prop :=
  runAll naming rs w = (rs.map fun _ => .ok (), w')

theorem Succeed.nil (naming : DeviceNaming) (w : MemoryWorld) : Succeed naming [] w w := rfl

theorem Succeed.cons {r : Call} {rs : List Call} {w'' : MemoryWorld}
    (hr : r.run MemoryTable.system naming w = (.ok (), w')) (hrs : Succeed naming rs w' w'') :
    Succeed naming (r :: rs) w w'' := by
  unfold Succeed at hrs ⊢
  rw [runAll_cons hr, hrs]
  rfl

theorem Succeed.append {rs rs' : List Call} {w'' : MemoryWorld} (h : Succeed naming rs w w')
    (h' : Succeed naming rs' w' w'') : Succeed naming (rs ++ rs') w w'' := by
  unfold Succeed at h h' ⊢
  rw [runAll_append h, h', List.map_append]

end Call

/-! ## 2. Reachable worlds -/

/-- The worlds that a course of events leads to. `may` tells which calls may be made where. -/
inductive Reachable (naming : DeviceNaming) (may : MemoryWorld → Call → Prop)
    (start : MemoryWorld) : MemoryWorld → Prop
  | start : Reachable naming may start start
  | call {w : MemoryWorld} (h : Reachable naming may start w) (r : Call) (hr : may w r) :
      Reachable naming may start (r.run MemoryTable.system naming w).2
  /-- A kind of mount requests is refused from now on. -/
  | refuse {w : MemoryWorld} (h : Reachable naming may start w) (kind : MountRequest) :
      Reachable naming may start { w with mounts := w.mounts.refuse kind }
  | allowAll {w : MemoryWorld} (h : Reachable naming may start w) :
      Reachable naming may start { w with mounts := w.mounts.allowAll }
  /-- Somebody else changes the file tree. -/
  | outside {w : MemoryWorld} (h : Reachable naming may start w) (tree : FileTree) :
      Reachable naming may start { w with tree }

/-- **What every call keeps holds in every reachable world**: nothing but calls changes the mount
    table. -/
theorem Reachable.keeps {naming : DeviceNaming} {may : MemoryWorld → Call → Prop}
    {start w : MemoryWorld} {P : List MountEntry → Prop} (h : Reachable naming may start w)
    (hstart : P start.mounts.entries)
    (hcall : ∀ (w : MemoryWorld) (r : Call), may w r → P w.mounts.entries →
      P (r.run MemoryTable.system naming w).2.mounts.entries) : P w.mounts.entries := by
  induction h with
  | start => exact hstart
  | call _ r hr ih => exact hcall _ r hr ih
  | refuse _ _ ih => exact ih
  | allowAll _ ih => exact ih
  | outside _ _ ih => exact ih

/-! ## 3. A small machine -/

/-- Two device nodes `/d/m` and `/d/n`, the links `/l/xa` and `/l/xb` to them, and two directories
    `/s` and `/t`. -/
def smallTree : FileTree where
  entries :=
    [([[0x64]], .directory 0o755), ([[0x64], [0x6D]], .device .block),
      ([[0x64], [0x6E]], .device .block), ([[0x6C]], .directory 0o755),
      ([[0x6C], [0x78, 0x61]], .link [0x2F, 0x64, 0x2F, 0x6D]),
      ([[0x6C], [0x78, 0x62]], .link [0x2F, 0x64, 0x2F, 0x6E]), ([[0x73]], .directory 0o755),
      ([[0x74]], .directory 0o755)]
  workplace := []

/-- The links of volumes are in `/l` and start with `x`. -/
def smallNaming : TextNaming := .ofText "/l" "x"

/-- The small machine before anything is mounted. -/
def smallWorld : MemoryWorld := ⟨smallTree, .empty⟩

theorem device_smallTree_a :
    smallNaming.device smallTree "a" = .ok ⟨"/l/xa", "/d/m", "xa"⟩ := by
  decide +kernel

theorem device_smallTree_b :
    smallNaming.device smallTree "b" = .ok ⟨"/l/xb", "/d/n", "xb"⟩ := by
  decide +kernel

/-- A volume mounted for a single writer, with some flags. -/
def writer (flags : List String) : Option Capability :=
  some ⟨some (.mount "" flags), .singleNodeWriter⟩

end VolumeNode
