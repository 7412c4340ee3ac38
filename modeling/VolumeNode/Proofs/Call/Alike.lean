import VolumeNode.Proofs.Call.Publication
import VolumeNode.Proofs.Call.Share
import VolumeNode.Proofs.FileTree.Place

/-!
# Calls in alike worlds

What a call sees of a world are the places of its own paths, the entries of the mount table at these
paths, and what the table has on its device.

* `Alike` worlds are the same as far as some paths and a device go.
* Handlers stay in step from alike worlds: they come to the same outcome, and to worlds that are
  alike again. This is put together step by step (`InStep.bind`, `InStep.check`,
  `InStep.ask_bind`).
* **`Alike.run`**: a call comes to the same in worlds that are alike for its own paths and device,
  whatever else there is in them.
-/

namespace VolumeNode

/-- The paths that a call names. -/
def Call.paths : Call → List String
  | .stage r => [r.staging]
  | .unstage r => [r.staging]
  | .publish r => [r.staging, r.target]
  | .unpublish r => [r.target]

/-- Two worlds are the same as far as some paths and a device go. -/
structure Alike (paths : List String) (node : String) (w w' : MemoryWorld) : Prop where
  tree : FileTree.AlikeFor paths w.tree w'.tree
  mounts : MemoryTable.AlikeFor paths node w.mounts w'.mounts

/-! ## 1. Handlers in step -/

section Steps

variable {α β σ : Type} {R : World σ → World σ → Prop} {m : MountSystem σ} {w w' : World σ}

/-- Two handlers in step go on in step. -/
theorem InStep.bind {h : Handler α} {f : α → Handler β}
    (hh : InStep R (h.run.run m w) (h.run.run m w'))
    (hf : ∀ a v v', R v v' → InStep R ((f a).run.run m v) ((f a).run.run m v')) :
    InStep R ((h >>= f).run.run m w) ((h >>= f).run.run m w') := by
  rw [Handler.run_bind, Handler.run_bind]
  obtain ⟨hanswer, hworld⟩ := hh
  cases hx : h.run.run m w with
  | mk x v =>
    cases hx' : h.run.run m w' with
    | mk x' v' =>
      rw [hx, hx'] at hanswer hworld
      obtain rfl : x = x' := hanswer
      cases x with
      | ok a => exact hf a v v' hworld
      | error e => exact ⟨rfl, hworld⟩

/-- A check that comes to the same in two worlds, and leaves them as they are. -/
theorem InStep.check {h : Handler α} {f : α → Handler β} {x : Except Refusal α} (hw : R w w')
    (hx : h.run.run m w = (x, w)) (hx' : h.run.run m w' = (x, w'))
    (hf : ∀ a, x = .ok a → InStep R ((f a).run.run m w) ((f a).run.run m w')) :
    InStep R ((h >>= f).run.run m w) ((h >>= f).run.run m w') := by
  rw [Handler.run_bind, Handler.run_bind, hx, hx']
  cases x with
  | ok a => exact hf a rfl
  | error e => exact ⟨rfl, hw⟩

/-- An action in step, and what comes after it. -/
theorem InStep.ask_bind {a : Action} {f : a.Answer → Handler β}
    (h : InStep R (a.perform m w) (a.perform m w'))
    (hf : ∀ x v v', R v v' → InStep R ((f x).run.run m v) ((f x).run.run m v')) :
    InStep R ((Handler.ask a >>= f).run.run m w) ((Handler.ask a >>= f).run.run m w') := by
  rw [Handler.run_ask_bind, Handler.run_ask_bind, h.1]
  exact hf _ _ _ h.2

/-- A handler that has its outcome stays in step. -/
theorem InStep.ofExcept (hw : R w w') (x : Except Refusal α) :
    InStep R ((Handler.ofExcept x).run.run m w) ((Handler.ofExcept x).run.run m w') :=
  ⟨rfl, hw⟩

theorem InStep.require (hw : R w w') (condition : Bool) (cause : Refusal) :
    InStep R ((Handler.require condition cause).run.run m w)
      ((Handler.require condition cause).run.run m w') := by
  rw [Handler.run_require, Handler.run_require]
  exact ⟨rfl, hw⟩

end Steps

/-! ## 2. Checks and actions -/

namespace Alike

variable {β : Type} {paths : List String} {node path : String} {w w' : MemoryWorld}

theorem symm (h : Alike paths node w w') : Alike paths node w' w :=
  ⟨h.tree.symm, h.mounts.symm⟩

theorem trans {w'' : MemoryWorld} (h : Alike paths node w w') (h' : Alike paths node w' w'') :
    Alike paths node w w'' :=
  ⟨h.tree.trans h'.tree, h.mounts.trans h'.mounts⟩

theorem directoryCheck (h : Alike paths node w w') (hpath : path ∈ paths) :
    Handler.directoryCheck w.tree path = Handler.directoryCheck w'.tree path := by
  unfold Handler.directoryCheck
  rw [h.tree.stat hpath]

/-- A path is asked to be a directory, and is one in both worlds or in none. -/
theorem requireDirectory (h : Alike paths node w w') (hpath : path ∈ paths)
    {f : Unit → Handler β} (hf : InStep (Alike paths node)
      ((f ()).run.run MemoryTable.system w) ((f ()).run.run MemoryTable.system w')) :
    InStep (Alike paths node)
      ((Handler.requireDirectory path >>= f).run.run MemoryTable.system w)
      ((Handler.requireDirectory path >>= f).run.run MemoryTable.system w') :=
  .check h (Handler.run_requireDirectory _ _ _)
    (h.directoryCheck hpath ▸ Handler.run_requireDirectory _ _ _) fun _ _ => hf

/-- The same mounts of the device are read in both worlds. -/
theorem entriesOf {d : Device} (h : Alike paths d.node w w') {f : List MountEntry → Handler β}
    (hf : ∀ mounts, InStep (Alike paths d.node)
      ((f mounts).run.run MemoryTable.system w) ((f mounts).run.run MemoryTable.system w')) :
    InStep (Alike paths d.node)
      ((Handler.entriesOf d >>= f).run.run MemoryTable.system w)
      ((Handler.entriesOf d >>= f).run.run MemoryTable.system w') :=
  .check h (Handler.run_entriesOf _ _)
    (h.mounts.read (fun _ => MemoryTable.concerns_of_mountsNode _) ▸ Handler.run_entriesOf _ _)
    fun mounts _ => hf mounts

/-- The same mounts at a path are read in both worlds. -/
theorem entriesAt (h : Alike paths node w w') (hpath : path ∈ paths)
    {f : List MountEntry → Handler β} (hf : ∀ mounts, InStep (Alike paths node)
      ((f mounts).run.run MemoryTable.system w) ((f mounts).run.run MemoryTable.system w')) :
    InStep (Alike paths node)
      ((Handler.entriesAt path >>= f).run.run MemoryTable.system w)
      ((Handler.entriesAt path >>= f).run.run MemoryTable.system w') :=
  .check h (Handler.run_entriesAt _ _)
    (h.mounts.read (fun _ => MemoryTable.concerns_of_at _ hpath) ▸ Handler.run_entriesAt _ _)
    fun mounts _ => hf mounts

/-- A change of the tree that succeeds in both worlds, or is refused alike. -/
theorem setTree (h : Alike paths node w w') {x x' : Except SystemError FileTree}
    (hx : FileTree.Matching (FileTree.AlikeFor paths) x x') :
    InStep (Alike paths node) (w.setTree x) (w'.setTree x') := by
  cases x with
  | ok t =>
    cases x' with
    | ok t' => exact ⟨rfl, hx, h.mounts⟩
    | error e' => exact hx.elim
  | error e =>
    cases x' with
    | ok t' => exact hx.elim
    | error e' => exact ⟨congrArg Except.error hx, h⟩

/-- A target is made in both worlds or in none. -/
theorem makeTarget (h : Alike paths node w w') (hpath : path ∈ paths) :
    InStep (Alike paths node) ((Handler.makeTarget path).run.run MemoryTable.system w)
      ((Handler.makeTarget path).run.run MemoryTable.system w') := by
  unfold Handler.makeTarget
  refine .ask_bind ⟨h.tree.lstat hpath, h⟩ fun x v v' hv => ?_
  cases x with
  | ok e => exact ⟨rfl, hv⟩
  | error e =>
    refine .bind (.require hv _ _) fun _ v v' hv => ?_
    exact .ask_bind (hv.setTree (hv.tree.makeDirectory hpath)) fun _ _ _ hv => .ofExcept hv _

/-- A request to the table that is answered alike. -/
theorem setMounts {α : Type} (h : Alike paths node w w') {reply reply' : α × MemoryTable}
    (hreply : InStep (MemoryTable.AlikeFor paths node) reply reply') :
    InStep (Alike paths node) (w.setMounts reply) (w'.setMounts reply') :=
  ⟨hreply.1, h.tree, hreply.2⟩

theorem unmount (h : Alike paths node w w') (hpath : path ∈ paths) :
    InStep (Alike paths node) ((Action.unmount path).perform MemoryTable.system w)
      ((Action.unmount path).perform MemoryTable.system w') :=
  h.setMounts (h.mounts.answer .unmount (h.mounts.unmountAt hpath))

theorem bindTo (h : Alike paths node w w') (hpath : path ∈ paths) (target : String)
    (flags : List String) :
    InStep (Alike paths node) ((Action.bindTo path target flags).perform MemoryTable.system w)
      ((Action.bindTo path target flags).perform MemoryTable.system w') := by
  refine h.setMounts (h.mounts.answer .bindTo ⟨rfl, ?_⟩)
  show MemoryTable.AlikeFor _ _ (w.mounts.insert _) (w'.mounts.insert _)
  rw [h.mounts.bindEntry hpath]
  exact h.mounts.insert _

/-- A device is mounted alike, if its link leads to the same node in both worlds. -/
theorem mountDevice {d : Device} (h : Alike paths d.node w w')
    (hnode : MemoryTable.nodeOf w.tree d.link = d.node)
    (hnode' : MemoryTable.nodeOf w'.tree d.link = d.node) (volume staging : String)
    (plan : MountPlan) :
    InStep (Alike paths d.node)
      ((Handler.mountDevice d volume staging plan).run.run MemoryTable.system w)
      ((Handler.mountDevice d volume staging plan).run.run MemoryTable.system w') := by
  unfold Handler.mountDevice
  split
  · refine .ask_bind (h.setMounts (h.mounts.answer .mount ⟨rfl, ?_⟩)) fun x _ _ hv =>
      .ofExcept hv _
    show MemoryTable.AlikeFor _ _ (w.mounts.insert _) (w'.mounts.insert _)
    rw [hnode, hnode']
    exact h.mounts.insert _
  · refine .ask_bind (h.setMounts (h.mounts.answer .mountFormatted ⟨rfl, ?_⟩)) fun x _ _ hv =>
      .ofExcept hv _
    show MemoryTable.AlikeFor _ _ (MemoryTable.insert _ _) (MemoryTable.insert _ _)
    rw [hnode, hnode']
    exact (h.mounts.formatIfBlank _).insert _

/-- A path is unmounted so many times alike. -/
theorem unmountTimes (h : Alike paths node w w') (hpath : path ∈ paths) (n : Nat) :
    InStep (Alike paths node) ((Handler.unmountTimes path n).run.run MemoryTable.system w)
      ((Handler.unmountTimes path n).run.run MemoryTable.system w') := by
  induction n generalizing w w' with
  | zero => exact ⟨rfl, h⟩
  | succ n ih =>
    unfold Handler.unmountTimes
    refine .ask_bind (h.unmount hpath) fun x v v' hv => ?_
    exact .bind (.ofExcept hv _) fun _ _ _ hv => ih hv

/-! ## 3. Calls -/

section Run

variable {naming : DeviceNaming} {d : Device}

theorem findDevice {volume : String} (h : Alike paths node w w')
    (hd : naming.device w.tree volume = .ok d) (hd' : naming.device w'.tree volume = .ok d)
    {f : Device → Handler β} (hf : InStep (Alike paths node)
      ((f d).run.run MemoryTable.system w) ((f d).run.run MemoryTable.system w')) :
    InStep (Alike paths node)
      ((Handler.findDevice naming volume >>= f).run.run MemoryTable.system w)
      ((Handler.findDevice naming volume >>= f).run.run MemoryTable.system w') := by
  refine .check h (hd ▸ Handler.run_findDevice _ _ _ _) (hd' ▸ Handler.run_findDevice _ _ _ _) ?_
  intro d' hd'
  cases hd'
  exact hf

theorem run_stage {naming : TextNaming} {r : StageRequest}
    (h : Alike [r.staging] d.node w w')
    (hd : naming.device w.tree r.volume = .ok d) (hd' : naming.device w'.tree r.volume = .ok d) :
    InStep (Alike [r.staging] d.node) ((Handler.stage naming r).run.run MemoryTable.system w)
      ((Handler.stage naming r).run.run MemoryTable.system w') := by
  have hstaging : r.staging ∈ [r.staging] := List.mem_singleton_self _
  unfold Handler.stage
  refine h.findDevice hd hd' ?_
  refine h.requireDirectory hstaging ?_
  refine .check h (Handler.run_ofExcept _ _ _) (Handler.run_ofExcept _ _ _) fun plan _ => ?_
  refine h.entriesOf fun mounts => ?_
  split
  · exact h.mountDevice (MemoryTable.nodeOf_link hd) (MemoryTable.nodeOf_link hd') _ _ _
  · split
    · exact ⟨rfl, h⟩
    · exact .require h _ _

theorem run_unstage {r : UnstageRequest} (h : Alike [r.staging] d.node w w')
    (hd : naming.device w.tree r.volume = .ok d) (hd' : naming.device w'.tree r.volume = .ok d) :
    InStep (Alike [r.staging] d.node) ((Handler.unstage naming r).run.run MemoryTable.system w)
      ((Handler.unstage naming r).run.run MemoryTable.system w') := by
  have hstaging : r.staging ∈ [r.staging] := List.mem_singleton_self _
  unfold Handler.unstage
  refine h.findDevice hd hd' ?_
  refine h.requireDirectory hstaging ?_
  refine h.entriesOf fun mounts => ?_
  split
  · exact ⟨rfl, h⟩
  · refine .bind (.require h _ _) fun _ v v' hv => ?_
    exact .ask_bind (hv.unmount hstaging) fun _ _ _ hv => .ofExcept hv _
  · exact ⟨rfl, h⟩

theorem run_publish {r : PublishRequest} (h : Alike [r.staging, r.target] d.node w w')
    (hd : naming.device w.tree r.volume = .ok d) (hd' : naming.device w'.tree r.volume = .ok d) :
    InStep (Alike [r.staging, r.target] d.node)
      ((Handler.publish naming r).run.run MemoryTable.system w)
      ((Handler.publish naming r).run.run MemoryTable.system w') := by
  have hstaging : r.staging ∈ [r.staging, r.target] := List.mem_cons_self
  have htarget : r.target ∈ [r.staging, r.target] := List.mem_cons_of_mem _ List.mem_cons_self
  unfold Handler.publish
  refine h.findDevice hd hd' ?_
  refine .check h (Handler.run_requireTarget _ _ _) (Handler.run_requireTarget _ _ _) fun _ _ => ?_
  refine .bind (h.makeTarget htarget) fun _ v v' hv => ?_
  refine hv.requireDirectory hstaging ?_
  refine .check hv (Handler.run_ofExcept _ _ _) (Handler.run_ofExcept _ _ _) fun plan _ => ?_
  refine hv.entriesOf fun mounts => ?_
  split
  · exact .require hv _ _
  · refine .bind (.require hv _ _) fun _ v v' hv => ?_
    exact .ask_bind (hv.bindTo hstaging _ _) fun _ _ _ hv => .ofExcept hv _

theorem run_unpublish {r : UnpublishRequest} (h : Alike [r.target] d.node w w')
    (hd : naming.device w.tree r.volume = .ok d) (hd' : naming.device w'.tree r.volume = .ok d) :
    InStep (Alike [r.target] d.node) ((Handler.unpublish naming r).run.run MemoryTable.system w)
      ((Handler.unpublish naming r).run.run MemoryTable.system w') := by
  have htarget : r.target ∈ [r.target] := List.mem_singleton_self _
  unfold Handler.unpublish
  refine h.findDevice hd hd' ?_
  refine .check h (Handler.run_requireTarget _ _ _) (Handler.run_requireTarget _ _ _) fun _ _ => ?_
  refine h.entriesAt htarget fun mounts => ?_
  dsimp only
  split
  · exact ⟨rfl, h⟩
  · refine .bind (h.unmountTimes htarget _) fun _ v v' hv => ?_
    exact .ask_bind (hv.setTree (hv.tree.removeDirectory htarget)) fun _ _ _ hv => .ofExcept hv _

/-- **A call comes to the same in worlds that are alike for its paths and its device**, and leaves
    them alike. -/
theorem run {naming : TextNaming} {r : Call} (h : Alike r.paths d.node w w')
    (hd : naming.device w.tree r.volume = .ok d) (hd' : naming.device w'.tree r.volume = .ok d) :
    InStep (Alike r.paths d.node) (r.run MemoryTable.system naming w)
      (r.run MemoryTable.system naming w') := by
  cases r with
  | stage r => exact run_stage h hd hd'
  | unstage r => exact run_unstage h hd hd'
  | publish r => exact run_publish h hd hd'
  | unpublish r => exact run_unpublish h hd hd'

end Run

end Alike

end VolumeNode
