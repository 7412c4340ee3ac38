import VolumeNode.Proofs.FileTree.Growth
import VolumeNode.Proofs.Mount.Entries
import VolumeNode.Service

/-!
# Running handlers

What it means to carry a handler out on a world, step by step.

* `run_bind` goes from one handler to the next; `run_ask`, `run_ofExcept`, `run_demand` and
  `run_require` are the single steps.
* `directoryCheck`, `targetCheck` and `makeTarget?` are the checks of a call as functions of the
  file tree alone. The handlers with these checks leave the world as it is, but for the target
  directory that is made (`run_requireDirectory`, `run_requireTarget`, `run_makeTarget`).
* A `MemoryWorld` has its mount table in memory. Reading that table changes nothing
  (`run_entriesOf`).
-/

namespace VolumeNode

/-- A world whose mount table is kept in memory. -/
abbrev MemoryWorld := World MemoryTable

/-- Actions that neither mount nor unmount leave a table in memory as it is. -/
theorem MemoryTable.mounts_perform (w : MemoryWorld) {a : Action} (h : a.changesMounts = false) :
    (a.perform system w).2.mounts = w.mounts := by
  refine Action.mounts_perform (fun t s => ?_) w h
  show (s.answer .entries (.ok s.entries, s)).2 = s
  unfold answer
  split <;> rfl

namespace Handler

variable {α β σ : Type} (m : MountSystem σ) (w : World σ)

/-! ## 1. Single steps -/

/-- A handler goes on where the one before it ended, unless that one failed. -/
theorem run_bind (h : Handler α) (f : α → Handler β) :
    (h >>= f).run.run m w =
      match h.run.run m w with
      | (.ok a, w') => (f a).run.run m w'
      | (.error e, w') => (.error e, w') := by
  rw [ExceptT.run_bind, Procedure.run_bind]
  cases hx : h.run.run m w with
  | mk x w' => cases x <;> rfl

theorem run_ask (a : Action) :
    (ask a).run.run m w = (.ok (a.perform m w).1, (a.perform m w).2) := rfl

/-- A handler goes on with the answer to an action, in the world after that action. -/
theorem run_ask_bind (a : Action) (f : a.Answer → Handler β) :
    (ask a >>= f).run.run m w = (f (a.perform m w).1).run.run m (a.perform m w).2 := by
  rw [run_bind, run_ask]

theorem run_ofExcept (x : Except Refusal α) : (ofExcept x).run.run m w = (x, w) := rfl

theorem run_demand {ε : Type} (x : Except ε α) (cause : ε → Refusal) :
    (demand x cause).run.run m w = (x.mapError cause, w) := rfl

theorem run_require (condition : Bool) (cause : Refusal) :
    (require condition cause).run.run m w =
      (if condition then .ok () else .error cause, w) := by
  cases condition <;> rfl

/-! ## 2. Checks of the file tree -/

theorem run_findDevice (naming : DeviceNaming) (volume : String) :
    (findDevice naming volume).run.run m w = (naming.device w.tree volume, w) := rfl

/-- Every call looks for the device of its volume first. Without one nothing happens. -/
theorem run_of_unattached {naming : DeviceNaming} {r : Call} {e : Refusal}
    (h : naming.device w.tree r.volume = .error e) : r.run m naming w = (.error e, w) := by
  cases r with
  | stage r =>
    show (stage naming r).run.run m w = _
    unfold stage
    rw [run_bind, run_findDevice, show naming.device w.tree r.volume = .error e from h]
  | unstage r =>
    show (unstage naming r).run.run m w = _
    unfold unstage
    rw [run_bind, run_findDevice, show naming.device w.tree r.volume = .error e from h]
  | publish r =>
    show (publish naming r).run.run m w = _
    unfold publish
    rw [run_bind, run_findDevice, show naming.device w.tree r.volume = .error e from h]
  | unpublish r =>
    show (unpublish naming r).run.run m w = _
    unfold unpublish
    rw [run_bind, run_findDevice, show naming.device w.tree r.volume = .error e from h]

/-- What there is to say against a path that has to be a directory already. -/
def directoryCheck (t : FileTree) (path : String) : Except Refusal Unit :=
  if path.isEmpty then .error .stagingRequired
  else
    match PlainPath.check path with
    | .error e => .error e
    | .ok () =>
      match t.stat path with
      | .error e => .error (if e = .noEntry then .missingDirectory path else .unknownPath path e)
      | .ok entry => if entry.isDirectory then .ok () else .error (.notADirectory path)

theorem directoryCheck_eq_ok_iff {t : FileTree} {path : String} :
    directoryCheck t path = .ok () ↔ path.isEmpty = false ∧ PlainPath.check path = .ok () ∧
      ∃ e, t.stat path = .ok e ∧ e.isDirectory = true := by
  unfold directoryCheck
  by_cases he : path.isEmpty = true
  · simp [he]
  cases hp : PlainPath.check path with
  | error e => simp [he]
  | ok u =>
    cases hs : t.stat path with
    | error e => simp [he]
    | ok e =>
      by_cases hd : e.isDirectory = true
      · simp [he, hd]
      · simp [he, hd]

/-- What is a directory stays one. -/
theorem directoryCheck_grow {t : FileTree} {path : String} (h : directoryCheck t path = .ok ())
    (new : List (Location × Entry)) : directoryCheck (t.grow new) path = .ok () := by
  obtain ⟨hne, hplain, e, hstat, hdir⟩ := directoryCheck_eq_ok_iff.1 h
  exact directoryCheck_eq_ok_iff.2 ⟨hne, hplain, e, FileTree.stat_grow new hstat, hdir⟩

theorem run_requireDirectory (path : String) :
    (requireDirectory path).run.run m w = (directoryCheck w.tree path, w) := by
  unfold requireDirectory directoryCheck
  rw [run_bind, run_require]
  by_cases he : path.isEmpty = true
  · simp [he]
  simp only [he, Bool.false_eq_true, if_false, Bool.not_false, if_true]
  rw [run_bind, run_ofExcept]
  cases hp : PlainPath.check path with
  | error e => rfl
  | ok u =>
    show (ask (.stat path) >>= _ : Handler Unit).run.run m w = _
    rw [run_ask_bind, run_bind, run_demand]
    simp only [Action.perform]
    cases hs : w.tree.stat path with
    | error e => rfl
    | ok entry => exact run_require m w _ _

/-- What there is to say against a path that a volume is to be published at. -/
def targetCheck (path : String) : Except Refusal Unit :=
  if path.isEmpty then .error .targetRequired else PlainPath.check path

/-- A plain path is not empty. -/
theorem targetCheck_of_plain {path : String} (h : PlainPath.check path = .ok ()) :
    targetCheck path = .ok () := by
  have hne : path.isEmpty = false := by
    have hrooted := ((PlainPath.check_eq_ok_iff path).1 h).rooted
    cases he : path.isEmpty with
    | false => rfl
    | true =>
      rw [String.isEmpty_iff.1 he] at hrooted
      cases hrooted
  unfold targetCheck
  simp [hne, h]

theorem run_requireTarget (path : String) :
    (requireTarget path).run.run m w = (targetCheck path, w) := by
  unfold requireTarget targetCheck
  rw [run_bind, run_require]
  by_cases he : path.isEmpty = true
  · simp [he]
  · simp [he, run_ofExcept]

/-- The tree in which something is at a target. -/
def makeTarget? (t : FileTree) (path : String) : Except Refusal FileTree :=
  match t.lstat path with
  | .ok _ => .ok t
  | .error e =>
    if e = .noEntry then (t.makeDirectory path targetMode).mapError (.directoryNotMade path)
    else .error (.directoryNotMade path e)

/-- At a free place a directory is made. -/
theorem makeTarget?_of_vacant {t : FileTree} {path : String} {l : Location} {name : Name}
    (hslot : t.slotOf path = .ok (.named l name)) (hfree : t.get? (l ++ [name]) = none) :
    makeTarget? t path = .ok (t.insert (l ++ [name]) (.directory targetMode)) := by
  have hmake : t.makeDirectory path targetMode = .ok _ :=
    FileTree.makeDirectory_eq_ok_iff.2 ⟨l, name, hslot, hfree, rfl⟩
  unfold makeTarget?
  rw [FileTree.lstat_of_vacant hslot hfree]
  dsimp only
  rw [if_pos rfl, hmake]
  rfl

theorem run_makeTarget (path : String) :
    (makeTarget path).run.run m w =
      match makeTarget? w.tree path with
      | .ok tree => (.ok (), { w with tree })
      | .error e => (.error e, w) := by
  unfold makeTarget makeTarget?
  rw [run_ask_bind]
  simp only [Action.perform]
  cases hl : w.tree.lstat path with
  | ok entry => rfl
  | error e =>
    rw [run_bind, run_require]
    by_cases he : e = .noEntry
    · simp only [he, decide_true, if_true]
      rw [run_ask_bind, run_demand]
      simp only [Action.perform]
      cases w.tree.makeDirectory path targetMode <;> rfl
    · simp [he]

/-- What comes of the question for the mount table. -/
theorem run_readEntries_of_answer {x : Except MountFailure (List MountEntry)} {s : σ}
    (h : m.entries w.tree w.mounts = (x, s)) :
    readEntries.run.run m w = (x.mapError .unreadableTable, { w with mounts := s }) := by
  unfold readEntries
  rw [run_ask_bind, run_demand]
  simp only [Action.perform, World.setMounts, h]

end Handler

/-! ## 3. The table in memory -/

namespace MemoryTable

/-- What a call learns that reads the table. -/
def read (s : MemoryTable) : Except Refusal (List MountEntry) :=
  if .entries ∈ s.refused then
    .error (.unreadableTable (.toolFailed MountRequest.entries.command "injected failure"))
  else .ok s.entries

theorem read_eq_ok_iff {s : MemoryTable} {rs : List MountEntry} :
    s.read = .ok rs ↔ MountRequest.entries ∉ s.refused ∧ rs = s.entries := by
  unfold read
  by_cases h : MountRequest.entries ∈ s.refused
  · simp [h]
  · simp [h, eq_comm]

end MemoryTable

namespace Handler

theorem run_readEntries (w : MemoryWorld) :
    readEntries.run.run MemoryTable.system w = (w.mounts.read, w) := by
  unfold readEntries MemoryTable.read
  rw [run_ask_bind, run_demand]
  simp only [Action.perform, World.setMounts, MemoryTable.system, MemoryTable.answer]
  split <;> rfl

theorem run_entriesOf (w : MemoryWorld) (device : Device) :
    (entriesOf device).run.run MemoryTable.system w =
      (w.mounts.read.map (·.filter (·.mountsNode device.node)), w) := by
  unfold entriesOf
  rw [run_bind, run_readEntries]
  cases w.mounts.read <;> rfl

theorem run_entriesAt (w : MemoryWorld) (path : String) :
    (entriesAt path).run.run MemoryTable.system w =
      (w.mounts.read.map (·.filter (·.path == path)), w) := by
  unfold entriesAt
  rw [run_bind, run_readEntries]
  cases w.mounts.read <;> rfl

end Handler

end VolumeNode
