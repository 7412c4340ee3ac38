import VolumeNode.Proofs.Call.Clearing
import VolumeNode.Proofs.Call.Opening
import VolumeNode.Proofs.FileTree.Rooted

/-!
# What calls do to the file tree

A call changes one entry of the file tree at most, and which one follows from its target alone. This
holds over every mount system, and however the call ends.

* `AddsDirectory` and `RemovesDirectory` are the two changes there are: an empty directory more at a
  free place, and an empty directory less.
* `Footprint` says which call may make which change, and when. **`Call.footprint_run`**: no call
  does anything else to the tree.
-/

namespace VolumeNode

namespace FileTree

/-! ## 1. One directory more or less -/

/-- A path names a place where nothing was, in a directory that is there. The new tree has an empty
    directory at that place, and is the old one otherwise. -/
structure AddsDirectory (t : FileTree) (path : String) (mode : Nat) (t' : FileTree) : Prop where
  /-- Nothing is found at the path, not even a link that leads nowhere. -/
  missing : t.lstat path = .error .noEntry
  place : ∃ l name, t.slotOf path = .ok (.named l name) ∧ t.isDirectory l = true ∧
    t.get? (l ++ [name]) = none ∧ t' = t.insert (l ++ [name]) (.directory mode) ∧
    (t.Rooted → t'.names (l ++ [name]) = [])

/-- A path names an empty directory. The new tree is without it, and is the old one otherwise. -/
structure RemovesDirectory (t : FileTree) (path : String) (t' : FileTree) : Prop where
  place : ∃ l name mode, t.slotOf path = .ok (.named l name) ∧
    t.get? (l ++ [name]) = some (.directory mode) ∧ t.names (l ++ [name]) = [] ∧
    t' = t.erase (l ++ [name])

variable {t t' : FileTree} {path : String}

/-- A new directory is empty where no entries hang in the air. -/
theorem Rooted.names_insert (h : t.Rooted) {l : Location} {name : Name} (e : Entry)
    (hfree : t.get? (l ++ [name]) = none) :
    (t.insert (l ++ [name]) e).names (l ++ [name]) = [] := by
  show (t.grow [(l ++ [name], e)]).names (l ++ [name]) = []
  rw [names_grow, h.names_of_vacant hfree]
  simp [names]

/-- What is made of a target is nothing, or one directory. -/
theorem addsDirectory_of_makeTarget? (h : Handler.makeTarget? t path = .ok t') :
    t' = t ∨ t.AddsDirectory path Handler.targetMode t' := by
  unfold Handler.makeTarget? at h
  cases hl : t.lstat path with
  | ok e =>
    rw [hl] at h
    exact .inl (Except.ok.inj h).symm
  | error e =>
    rw [hl] at h
    dsimp only at h
    by_cases he : e = .noEntry
    · subst he
      rw [if_pos rfl] at h
      cases hm : t.makeDirectory path Handler.targetMode with
      | error e =>
        rw [hm] at h
        cases h
      | ok tree =>
        rw [hm] at h
        obtain rfl : tree = t' := Except.ok.inj h
        obtain ⟨l, name, hslot, hfree, rfl⟩ := makeDirectory_eq_ok_iff.1 hm
        exact .inr ⟨hl, l, name, hslot, isDirectory_of_slotOf hslot, hfree, rfl,
          fun hrooted => hrooted.names_insert _ hfree⟩
    · rw [if_neg he] at h
      cases h

theorem removesDirectory_iff : t.RemovesDirectory path t' ↔ t.removeDirectory path = .ok t' := by
  rw [removeDirectory_eq_ok_iff]
  exact ⟨fun h => h.place, fun h => ⟨h⟩⟩

end FileTree

variable {α σ : Type}

/-! ## 2. Calls -/

/-- What a call may leave of the file tree. -/
inductive Footprint (m : MountSystem σ) (naming : DeviceNaming) (w : World σ) :
    Call → World σ → Prop
  /-- The tree as it was. -/
  | same {r : Call} {w' : World σ} (tree : w'.tree = w.tree) : Footprint m naming w r w'
  /-- A new directory at the target of a publication. -/
  | made {r : PublishRequest} {w' : World σ}
      (adds : w.tree.AddsDirectory r.target Handler.targetMode w'.tree) :
      Footprint m naming w (.publish r) w'
  /-- No directory any more at a target that a volume was taken off. The table was read, the device
      was mounted there so many times, at least once, and the target was unmounted as often. -/
  | removed {r : UnpublishRequest} {w' : World σ} {d : Device} {rs : List MountEntry} {s : σ}
      (device : naming.device w.tree r.volume = .ok d)
      (listed : m.entries w.tree w.mounts = (.ok rs, s))
      (mounted : ∃ e ∈ rs, e.path = r.target ∧ (e.source = d.node ∨ e.device = d.node))
      (unmounted : Unmounts m w.tree r.target
        ((rs.filter (·.path == r.target)).countP (Handler.shows · d)) s w'.mounts)
      (removes : w.tree.RemovesDirectory r.target w'.tree) :
      Footprint m naming w (.unpublish r) w'

/-- A procedure that takes no action that changes the tree leaves it as it was. -/
theorem Procedure.Confined.tree_run {p : Procedure α}
    (hp : p.Confined fun a => a.changesTree = false) (m : MountSystem σ) (w : World σ) :
    (p.run m w).2.tree = w.tree := by
  refine hp.run (R := fun w w' => w'.tree = w.tree) (fun _ => rfl) ?_ ?_ w
  · intro w w' w'' h h'
    exact h'.trans h
  · intro a w ha
    exact a.tree_perform m w ha

namespace Handler

theorem looks_keepsTree : Looks fun a => a.changesTree = false := fun _ _ htree => htree

theorem confined_mountDevice (device : Device) (volume staging : String) (plan : MountPlan) :
    Confined (fun a => a.changesTree = false) (mountDevice device volume staging plan) := by
  unfold mountDevice
  split
  · exact Confined.bind (Confined.ask (P := fun a => a.changesTree = false) rfl) fun _ =>
      Confined.demand _ _
  · exact Confined.bind (Confined.ask (P := fun a => a.changesTree = false) rfl) fun _ =>
      Confined.demand _ _

theorem confined_stage (naming : DeviceNaming) (r : StageRequest) :
    Confined (fun a => a.changesTree = false) (stage naming r) := by
  refine (Confined.findDevice looks_keepsTree _ _).bind fun device => ?_
  refine (Confined.requireDirectory looks_keepsTree _).bind fun _ => ?_
  refine (Confined.ofExcept _).bind fun plan => ?_
  refine (Confined.entriesOf looks_keepsTree device).bind fun mounts => ?_
  split
  · exact confined_mountDevice _ _ _ _
  · split
    · exact Confined.fail _
    · exact Confined.require _ _

theorem confined_unstage (naming : DeviceNaming) (r : UnstageRequest) :
    Confined (fun a => a.changesTree = false) (unstage naming r) := by
  refine (Confined.findDevice looks_keepsTree _ _).bind fun device => ?_
  refine (Confined.requireDirectory looks_keepsTree _).bind fun _ => ?_
  refine (Confined.entriesOf looks_keepsTree device).bind fun mounts => ?_
  split
  · exact Confined.pure _
  · refine (Confined.require _ _).bind fun _ => ?_
    exact Confined.bind (Confined.ask (P := fun a => a.changesTree = false) rfl) fun _ =>
      Confined.demand _ _
  · exact Confined.fail _

/-- Publishing changes the tree by making its target, and in no other way. -/
theorem tree_publish (m : MountSystem σ) (naming : DeviceNaming) (r : PublishRequest)
    (w : World σ) :
    ((publish naming r).run.run m w).2.tree = w.tree ∨
      makeTarget? w.tree r.target = .ok ((publish naming r).run.run m w).2.tree := by
  unfold publish
  rw [run_bind, run_findDevice]
  cases naming.device w.tree r.volume with
  | error e => exact .inl rfl
  | ok device =>
    dsimp only
    rw [run_bind, run_requireTarget]
    cases targetCheck r.target with
    | error e => exact .inl rfl
    | ok u =>
      dsimp only
      rw [run_bind, run_makeTarget]
      cases makeTarget? w.tree r.target with
      | error e => exact .inl rfl
      | ok tree =>
        -- what comes after the target was made leaves the tree alone
        refine .inr (congrArg Except.ok (Procedure.Confined.tree_run ?_ m { w with tree }).symm)
        refine (Confined.requireDirectory looks_keepsTree _).bind fun _ => ?_
        refine (Confined.ofExcept _).bind fun plan => ?_
        refine (Confined.entriesOf looks_keepsTree device).bind fun mounts => ?_
        split
        · exact Confined.require _ _
        · refine (Confined.require _ _).bind fun _ => ?_
          exact Confined.bind (Confined.ask (P := fun a => a.changesTree = false) rfl) fun _ =>
            Confined.demand _ _

/-- What unpublishing does once it has read the table. -/
theorem footprint_clear {m : MountSystem σ} {naming : DeviceNaming} {r : UnpublishRequest}
    {w : World σ} {d : Device} {rs : List MountEntry} {s : σ}
    (device : naming.device w.tree r.volume = .ok d)
    (listed : m.entries w.tree w.mounts = (.ok rs, s)) {effects : List Action}
    {outcome : Except Refusal Unit} {w' : World σ}
    (h : Clearing m w.tree r.target ((rs.filter (·.path == r.target)).countP (shows · d)) s effects
      outcome w') : Footprint m naming w (.unpublish r) w' := by
  cases h with
  | absent none => exact .same rfl
  | stopped early before fails => exact .same rfl
  | kept some all refused => exact .same rfl
  | removed some all granted =>
    obtain ⟨e, he, hshows⟩ := List.countP_pos_iff.1 (Nat.pos_of_ne_zero some)
    obtain ⟨hmem, hpath⟩ := List.mem_filter.1 he
    refine .removed device listed ⟨e, hmem, beq_iff_eq.1 hpath, ?_⟩ all ?_
    · simpa [shows] using hshows
    · exact FileTree.removesDirectory_iff.2 granted

theorem footprint_unpublish (m : MountSystem σ) (naming : DeviceNaming) (r : UnpublishRequest)
    (w : World σ) :
    Footprint m naming w (.unpublish r) ((unpublish naming r).run.run m w).2 := by
  unfold unpublish
  rw [run_bind, run_findDevice]
  cases hd : naming.device w.tree r.volume with
  | error e => exact .same rfl
  | ok d =>
    dsimp only
    rw [run_bind, run_requireTarget]
    cases targetCheck r.target with
    | error e => exact .same rfl
    | ok u =>
      dsimp only
      unfold entriesAt
      rw [bind_assoc]
      cases hlisted : m.entries w.tree w.mounts with
      | mk x s =>
        cases x with
        | error e =>
          rw [run_readEntries_of_unreadable hlisted]
          exact .same rfl
        | ok rs =>
          rw [run_readEntries_of_readable hlisted, pure_bind]
          obtain ⟨effects, outcome, w', hclearing, hruns⟩ := exists_clearing m w.tree r.target
            ((rs.filter (·.path == r.target)).countP (shows · d)) s
          rw [hruns.run]
          exact footprint_clear hd hlisted hclearing

end Handler

/-- **A call changes one entry of the tree at most, the one at its target.** Staging and unstaging
    leave the tree as it is; publishing may add the missing directory; unpublishing may remove it,
    once all mounts of the device are off. -/
theorem Call.footprint_run (m : MountSystem σ) (naming : DeviceNaming) (r : Call) (w : World σ) :
    Footprint m naming w r (r.run m naming w).2 := by
  cases r with
  | stage r => exact .same ((Handler.confined_stage naming r).tree_run m w)
  | unstage r => exact .same ((Handler.confined_unstage naming r).tree_run m w)
  | publish r =>
    rcases Handler.tree_publish m naming r w with hsame | hmade
    · exact .same hsame
    · rcases FileTree.addsDirectory_of_makeTarget? hmade with hsame | hadds
      · exact .same hsame
      · exact .made hadds
  | unpublish r => exact Handler.footprint_unpublish m naming r w

end VolumeNode
