import VolumeNode.Proofs.Call.Run

/-!
# Before a call reads the mount table

Every call makes checks of the file tree and of its own fields first, then reads the mount table
once, and decides what to do by it. This holds over every mount system.

* `Call.checks` are the first checks of a call, as a function of the file tree alone.
* `ReadsAfter` says that a handler makes some checks and reads the table then. The checks of a
  handler are put together step by step (`ReadsAfter.bind`, `ReadsAfter.bind_made`).
* **`Call.readsAfter_checks`**: each call reads the table after its checks and not before.
* So a call that fails a check fails for this cause (`Call.run_of_refused`), and one that passes
  them fails where the table cannot be read (`Call.run_of_unreadable`). Neither mounts anything.
-/

namespace VolumeNode

namespace Handler

variable {α β σ : Type} {m : MountSystem σ} {w : World σ}

/-! ## 1. Handlers that read the table -/

/-- A handler makes these checks, and reads the mount table then, in the tree that they leave. -/
def ReadsAfter (m : MountSystem σ) (w : World σ) (checks : Except Refusal FileTree)
    (h : Handler α) : Prop :=
  match checks with
  | .error e => ∃ tree, h.run.run m w = (.error e, { w with tree })
  | .ok tree => ∃ rest : List MountEntry → Handler α,
      h.run.run m w = (readEntries >>= rest).run.run m { w with tree }

/-- A handler that starts with a check that changes nothing. -/
theorem ReadsAfter.bind {h : Handler α} {x : Except Refusal α} {f : α → Handler β}
    {checks : α → Except Refusal FileTree} (hrun : h.run.run m w = (x, w))
    (hnext : ∀ a, ReadsAfter m w (checks a) (f a)) : ReadsAfter m w (x >>= checks) (h >>= f) := by
  cases x with
  | error e => exact ⟨w.tree, by rw [run_bind, hrun]⟩
  | ok a =>
    have hfirst : (h >>= f).run.run m w = (f a).run.run m w := by rw [run_bind, hrun]
    show ReadsAfter m w (checks a) (h >>= f)
    unfold ReadsAfter
    rw [hfirst]
    exact hnext a

/-- A handler that starts with making its target. -/
theorem ReadsAfter.bind_made {path : String} {f : Unit → Handler β}
    {checks : FileTree → Except Refusal FileTree}
    (hnext : ∀ tree, ReadsAfter m { w with tree } (checks tree) (f ())) :
    ReadsAfter m w (makeTarget? w.tree path >>= checks) (makeTarget path >>= f) := by
  have hrun := run_makeTarget m w path
  cases hmade : makeTarget? w.tree path with
  | error e =>
    rw [hmade] at hrun
    exact ⟨w.tree, by rw [run_bind, hrun]⟩
  | ok tree =>
    rw [hmade] at hrun
    have hfirst : (makeTarget path >>= f).run.run m w = (f ()).run.run m { w with tree } := by
      rw [run_bind, hrun]
    show ReadsAfter m w (checks tree) (makeTarget path >>= f)
    unfold ReadsAfter
    rw [hfirst]
    exact hnext tree

theorem readsAfter_readEntries (rest : List MountEntry → Handler α) :
    ReadsAfter m w (.ok w.tree) (readEntries >>= rest) :=
  ⟨rest, rfl⟩

theorem readsAfter_entriesOf (device : Device) (f : List MountEntry → Handler α) :
    ReadsAfter m w (.ok w.tree) (entriesOf device >>= f) := by
  unfold entriesOf
  rw [bind_assoc]
  exact readsAfter_readEntries _

theorem readsAfter_entriesAt (path : String) (f : List MountEntry → Handler α) :
    ReadsAfter m w (.ok w.tree) (entriesAt path >>= f) := by
  unfold entriesAt
  rw [bind_assoc]
  exact readsAfter_readEntries _

/-- Where the table cannot be read, nothing comes after the question for it. -/
theorem run_readEntries_of_unreadable {e : MountFailure} {s : σ}
    (h : m.entries w.tree w.mounts = (.error e, s)) (rest : List MountEntry → Handler α) :
    (readEntries >>= rest).run.run m w = (.error (.unreadableTable e), { w with mounts := s }) := by
  rw [run_bind, run_readEntries_of_answer m w h]
  rfl

/-- A handler goes on with the table that it read. -/
theorem run_readEntries_of_readable {rs : List MountEntry} {s : σ}
    (h : m.entries w.tree w.mounts = (.ok rs, s)) (rest : List MountEntry → Handler α) :
    (readEntries >>= rest).run.run m w = (rest rs).run.run m { w with mounts := s } := by
  rw [run_bind, run_readEntries_of_answer m w h]
  rfl

end Handler

/-! ## 2. The checks of a call -/

namespace Call

/-- The checks that a call makes before it reads the mount table, in their order, and the tree in
    which it reads the table. A target has been made by then. -/
def checks (naming : DeviceNaming) (t : FileTree) : Call → Except Refusal FileTree
  | stage r => do
    let _ ← naming.device t r.volume
    Handler.directoryCheck t r.staging
    let _ ← MountPlan.ofRequest r.capability
    return t
  | unstage r => do
    let _ ← naming.device t r.volume
    Handler.directoryCheck t r.staging
    return t
  | publish r => do
    let _ ← naming.device t r.volume
    Handler.targetCheck r.target
    let tree ← Handler.makeTarget? t r.target
    Handler.directoryCheck tree r.staging
    let _ ← MountPlan.ofRequest r.capability
    return tree
  | unpublish r => do
    let _ ← naming.device t r.volume
    Handler.targetCheck r.target
    return t

section Run

variable {σ : Type} {m : MountSystem σ} {w : World σ} {naming : DeviceNaming} {r : Call}

open Handler in
/-- **A call reads the mount table after its checks.** -/
theorem readsAfter_checks (m : MountSystem σ) (w : World σ) (naming : DeviceNaming) (r : Call) :
    ReadsAfter m w (r.checks naming w.tree) (r.handler naming) := by
  cases r with
  | stage r =>
    refine .bind (run_findDevice m w naming r.volume) fun device => ?_
    refine .bind (run_requireDirectory m w r.staging) fun _ => ?_
    exact .bind (run_ofExcept m w _) fun plan => readsAfter_entriesOf device _
  | unstage r =>
    refine .bind (run_findDevice m w naming r.volume) fun device => ?_
    exact .bind (run_requireDirectory m w r.staging) fun _ => readsAfter_entriesOf device _
  | publish r =>
    refine .bind (run_findDevice m w naming r.volume) fun device => ?_
    refine .bind (run_requireTarget m w r.target) fun _ => ?_
    refine .bind_made fun tree => ?_
    refine .bind (run_requireDirectory m { w with tree } r.staging) fun _ => ?_
    exact .bind (run_ofExcept m { w with tree } _) fun plan => readsAfter_entriesOf device _
  | unpublish r =>
    refine .bind (run_findDevice m w naming r.volume) fun device => ?_
    exact .bind (run_requireTarget m w r.target) fun _ => readsAfter_entriesAt r.target _

/-- A call that fails a check fails for this cause, and has asked the mount system for nothing. -/
theorem run_of_refused {e : Refusal} (h : r.checks naming w.tree = .error e) :
    ∃ tree, r.run m naming w = (.error e, { w with tree }) := by
  have hr := readsAfter_checks m w naming r
  rw [h] at hr
  exact hr

/-- A call that passes its checks fails where the table cannot be read. -/
theorem run_of_unreadable {tree : FileTree} {e : MountFailure} {s : σ}
    (h : r.checks naming w.tree = .ok tree) (hread : m.entries tree w.mounts = (.error e, s)) :
    r.run m naming w = (.error (.unreadableTable e), ⟨tree, s⟩) := by
  have hr := readsAfter_checks m w naming r
  rw [h] at hr
  obtain ⟨rest, hrest⟩ := hr
  show (r.handler naming).run.run m w = _
  rw [hrest, Handler.run_readEntries_of_unreadable hread]

end Run

end Call

end VolumeNode
