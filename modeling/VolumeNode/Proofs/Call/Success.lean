import VolumeNode.Proofs.Call.Actions

/-!
# Publications that succeed

What a success says about the way there, over every mount system.

* A handler that succeeds went through each of its steps (`Handler.run_bind_eq_ok_iff`), so the
  steps can be taken off its run one by one.
* `PublishSuccess` are the two ways in which a volume can be published: it was there already, or the
  staging directory was bound. **`Call.publish_success`**: there is no other one.
-/

namespace VolumeNode

variable {σ : Type} {m : MountSystem σ}

/-! ## 1. Steps -/

namespace Handler

variable {α β : Type} {w w' : World σ}

/-- One handler after another succeeds exactly if both do. -/
theorem run_bind_eq_ok_iff {h : Handler α} {f : α → Handler β} {b : β} :
    (h >>= f).run.run m w = (.ok b, w') ↔
      ∃ a w₁, h.run.run m w = (.ok a, w₁) ∧ (f a).run.run m w₁ = (.ok b, w') := by
  rw [run_bind]
  cases hfirst : h.run.run m w with
  | mk x w₁ =>
    cases x with
    | error e => exact iff_of_false nofun fun ⟨_, _, h, _⟩ => by cases h
    | ok a =>
      constructor
      · intro hnext
        exact ⟨a, w₁, rfl, hnext⟩
      · intro ⟨a', w₁', hsame, hnext⟩
        cases hsame
        exact hnext

theorem run_require_eq_ok_iff {condition : Bool} {cause : Refusal} :
    (require condition cause).run.run m w = (.ok (), w') ↔ condition = true ∧ w = w' := by
  rw [run_require]
  cases condition with
  | true => simp
  | false => simp

theorem run_makeTarget_eq_ok_iff {path : String} :
    (makeTarget path).run.run m w = (.ok (), w') ↔
      ∃ tree, makeTarget? w.tree path = .ok tree ∧ w' = { w with tree } := by
  rw [run_makeTarget]
  cases makeTarget? w.tree path with
  | ok tree => simp [eq_comm]
  | error e => simp

theorem run_entriesOf_eq_ok_iff {device : Device} {mounts : List MountEntry} :
    (entriesOf device).run.run m w = (.ok mounts, w') ↔
      ∃ rs s, m.entries w.tree w.mounts = (.ok rs, s) ∧
        mounts = rs.filter (·.mountsNode device.node) ∧ w' = { w with mounts := s } := by
  cases hlisted : m.entries w.tree w.mounts with
  | mk x s =>
    rw [(runs_entriesOf m w changing_changesMounts device hlisted).run]
    cases x with
    | error e => exact iff_of_false nofun fun ⟨_, _, h, _⟩ => by cases h
    | ok rs =>
      constructor
      · intro h
        cases h
        exact ⟨rs, s, rfl, rfl, rfl⟩
      · intro ⟨rs', s', hsame, hmounts, hw'⟩
        cases hsame
        rw [hmounts, hw']
        rfl

end Handler

/-! ## 2. Publishing -/

/-- The ways in which a volume can be published. -/
inductive PublishSuccess (m : MountSystem σ) (naming : DeviceNaming) (r : PublishRequest)
    (w : World σ) : World σ → Prop
  /-- It is published there already, as asked for. -/
  | present {d : Device} {tree : FileTree} {rs : List MountEntry} {s : σ} {e : MountEntry}
      (device : naming.device w.tree r.volume = .ok d)
      (made : Handler.makeTarget? w.tree r.target = .ok tree)
      (listed : m.entries tree w.mounts = (.ok rs, s))
      (shown : Handler.published? (rs.filter (·.mountsNode d.node)) r.target = some e)
      (fits : e.carries (accessOption r.readOnly) = true) : PublishSuccess m naming r w ⟨tree, s⟩
  /-- The staging directory is bound to the target. -/
  | bound {d : Device} {tree : FileTree} {plan : MountPlan} {rs : List MountEntry} {s s' : σ}
      (device : naming.device w.tree r.volume = .ok d)
      (made : Handler.makeTarget? w.tree r.target = .ok tree)
      (planned : MountPlan.ofRequest r.capability = .ok plan)
      (listed : m.entries tree w.mounts = (.ok rs, s))
      (hidden : Handler.published? (rs.filter (·.mountsNode d.node)) r.target = none)
      (granted : m.bindTo r.staging r.target (Handler.publishFlags plan.flags r.readOnly) tree s =
        (.ok (), s')) : PublishSuccess m naming r w ⟨tree, s'⟩

open Handler in
/-- **There is no other way.** -/
theorem Call.publish_success {naming : DeviceNaming} {r : PublishRequest} {w w' : World σ}
    (h : (publish r).run m naming w = (.ok (), w')) : PublishSuccess m naming r w w' := by
  have hrun : (Handler.publish naming r).run.run m w = (.ok (), w') := h
  unfold Handler.publish at hrun
  obtain ⟨d, _, hfind, hrun⟩ := run_bind_eq_ok_iff.1 hrun
  rw [run_findDevice] at hfind
  obtain ⟨hdevice, rfl⟩ := Prod.mk.inj hfind
  obtain ⟨_, _, htarget, hrun⟩ := run_bind_eq_ok_iff.1 hrun
  rw [run_requireTarget] at htarget
  obtain ⟨_, rfl⟩ := Prod.mk.inj htarget
  obtain ⟨_, _, hmake, hrun⟩ := run_bind_eq_ok_iff.1 hrun
  obtain ⟨tree, hmade, rfl⟩ := run_makeTarget_eq_ok_iff.1 hmake
  obtain ⟨_, _, hstaging, hrun⟩ := run_bind_eq_ok_iff.1 hrun
  rw [run_requireDirectory] at hstaging
  obtain ⟨_, rfl⟩ := Prod.mk.inj hstaging
  obtain ⟨plan, _, hplan, hrun⟩ := run_bind_eq_ok_iff.1 hrun
  rw [run_ofExcept] at hplan
  obtain ⟨hplanned, rfl⟩ := Prod.mk.inj hplan
  obtain ⟨mounts, _, hread, hrun⟩ := run_bind_eq_ok_iff.1 hrun
  obtain ⟨rs, s, hlisted, rfl, rfl⟩ := run_entriesOf_eq_ok_iff.1 hread
  split at hrun
  next e hshown =>
    obtain ⟨hfits, rfl⟩ := run_require_eq_ok_iff.1 hrun
    exact .present hdevice hmade hlisted hshown hfits
  next hhidden =>
    obtain ⟨_, _, hstaged, hrun⟩ := run_bind_eq_ok_iff.1 hrun
    obtain ⟨_, rfl⟩ := run_require_eq_ok_iff.1 hstaged
    rw [run_ask_bind, run_demand] at hrun
    obtain ⟨hanswer, rfl⟩ := Prod.mk.inj hrun
    refine .bound hdevice hmade hplanned hlisted hhidden (Prod.ext ?_ rfl)
    cases hbind : (m.bindTo r.staging r.target (publishFlags plan.flags r.readOnly) tree s).1 with
    | ok u => rfl
    | error e =>
      simp only [Action.perform, World.setMounts, hbind] at hanswer
      cases hanswer

end VolumeNode
