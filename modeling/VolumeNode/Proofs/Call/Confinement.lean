import VolumeNode.Service

/-!
# Confined procedures

What a call may do at all, whatever is answered to it.

* A procedure is `Confined` to a kind of actions if it takes no others, on any of its branches.
* **`Confined.run`**: what every action of that kind does to a world is what the whole procedure
  does, if it can be done any number of times in a row.
* Looking around is open to every handler (`Looks`); the checks that calls share do nothing else.
* A call that stages a volume for reading only neither formats nor binds nor unmounts
  (`confined_stage_of_readOnly`).
-/

namespace VolumeNode

/-! ## 1. Procedures -/

namespace Procedure

variable {α β σ : Type} {P : Action → Prop}

/-- All actions that a procedure may take are of one kind. -/
def Confined (P : Action → Prop) : Procedure α → Prop
  | done _ => True
  | act a next => P a ∧ ∀ answer, (next answer).Confined P

theorem Confined.bind {p : Procedure α} {f : α → Procedure β} (hp : p.Confined P)
    (hf : ∀ a, (f a).Confined P) : (p >>= f).Confined P := by
  show (p.bind f).Confined P
  induction p with
  | done a => exact hf a
  | act a next ih => exact ⟨hp.1, fun answer => ih answer (hp.2 answer)⟩

/-- **What each action does to a world, the whole procedure does.** -/
theorem Confined.run {m : MountSystem σ} {R : World σ → World σ → Prop} (hnone : ∀ w, R w w)
    (hmore : ∀ w w' w'', R w w' → R w' w'' → R w w'')
    (hact : ∀ a w, P a → R w (a.perform m w).2) {p : Procedure α} (hp : p.Confined P)
    (w : World σ) : R w (p.run m w).2 := by
  induction p generalizing w with
  | done a => exact hnone w
  | act a next ih => exact hmore _ _ _ (hact a w hp.1) (ih _ (hp.2 _) _)

end Procedure

/-! ## 2. Handlers -/

namespace Handler

variable {α β : Type} {P : Action → Prop}

/-- All actions that a handler may take are of one kind. -/
def Confined (P : Action → Prop) (h : Handler α) : Prop :=
  h.run.Confined P

theorem Confined.pure (a : α) : Confined P (pure a : Handler α) := trivial

theorem Confined.fail (e : Refusal) : Confined P (throw e : Handler α) := trivial

theorem Confined.bind {h : Handler α} {f : α → Handler β} (hh : Confined P h)
    (hf : ∀ a, Confined P (f a)) : Confined P (h >>= f) := by
  unfold Confined
  rw [ExceptT.run_bind]
  refine Procedure.Confined.bind hh fun x => ?_
  cases x with
  | ok a => exact hf a
  | error e => trivial

/-- After a check a handler only has to be confined where the check succeeds. -/
theorem Confined.ofExcept_bind {x : Except Refusal α} {f : α → Handler β}
    (hf : ∀ a, x = .ok a → Confined P (f a)) : Confined P (ofExcept x >>= f) := by
  cases x with
  | ok a => exact hf a rfl
  | error e => exact trivial

theorem Confined.ofExcept (x : Except Refusal α) : Confined P (ofExcept x) := trivial

theorem Confined.demand {ε : Type} (x : Except ε α) (cause : ε → Refusal) :
    Confined P (demand x cause) := trivial

theorem Confined.require (condition : Bool) (cause : Refusal) :
    Confined P (require condition cause) := by
  cases condition <;> trivial

theorem Confined.ask {a : Action} (ha : P a) : Confined P (ask a) := ⟨ha, fun _ => trivial⟩

/-! ## 3. Looking around -/

/-- A kind of actions has all that change nothing. -/
def Looks (P : Action → Prop) : Prop :=
  ∀ a : Action, a.changesMounts = false → a.changesTree = false → P a

theorem Confined.findDevice (hP : Looks P) (naming : DeviceNaming) (volume : String) :
    Confined P (findDevice naming volume) :=
  (Confined.ask (hP _ rfl rfl)).bind fun _ => Confined.ofExcept _

theorem Confined.requireDirectory (hP : Looks P) (path : String) :
    Confined P (requireDirectory path) := by
  refine (Confined.require _ _).bind fun _ => (Confined.ofExcept _).bind fun _ => ?_
  refine (Confined.ask (hP _ rfl rfl)).bind fun _ => (Confined.demand _ _).bind fun entry => ?_
  exact Confined.require _ _

theorem Confined.entriesOf (hP : Looks P) (device : Device) : Confined P (entriesOf device) :=
  ((Confined.ask (hP _ rfl rfl)).bind fun _ => Confined.demand _ _).bind fun _ => Confined.pure _

theorem Confined.entriesAt (hP : Looks P) (path : String) : Confined P (entriesAt path) :=
  ((Confined.ask (hP _ rfl rfl)).bind fun _ => Confined.demand _ _).bind fun _ => Confined.pure _

/-- Making a target is no matter of the mount system. -/
theorem Confined.makeTarget (hP : ∀ a : Action, a.changesMounts = false → P a) (path : String) :
    Confined P (makeTarget path) := by
  refine (Confined.ask (hP _ rfl)).bind fun x => ?_
  cases x with
  | ok e => exact Confined.pure _
  | error e =>
    refine (Confined.require _ _).bind fun _ => ?_
    exact (Confined.ask (hP _ rfl)).bind fun _ => Confined.demand _ _

/-! ## 4. Staging for reading only -/

/-- A capability for reading only has no plan that writes. -/
theorem readOnly_of_ofRequest {c : Capability} {plan : MountPlan}
    (hplan : MountPlan.ofRequest (some c) = .ok plan)
    (hmode : c.accessMode.readOnly? = some true) : plan.readOnly = true := by
  simp only [MountPlan.ofRequest, MountPlan.ofCapability, hmode] at hplan
  split at hplan
  · split at hplan
    · cases hplan
    · cases hplan
      rfl
  · cases hplan

/-- Staging for reading only takes no action that changes mounts but plain mounts. -/
theorem confined_stage_of_readOnly (hP : Looks P)
    (hmount : ∀ source target fsType flags, P (.mount source target fsType flags))
    {naming : DeviceNaming} {r : StageRequest} {c : Capability} (hc : r.capability = some c)
    (hmode : c.accessMode.readOnly? = some true) :
    ((Call.stage r).procedure naming).Confined P := by
  show Confined P (stage naming r)
  refine (Confined.findDevice hP _ _).bind fun device => ?_
  refine (Confined.requireDirectory hP _).bind fun _ => ?_
  refine Confined.ofExcept_bind fun plan hplan => ?_
  rw [hc] at hplan
  have hreads : plan.readOnly = true := readOnly_of_ofRequest hplan hmode
  refine (Confined.entriesOf hP device).bind fun mounts => ?_
  split
  · unfold mountDevice
    rw [if_pos hreads]
    exact (Confined.ask (hmount _ _ _ _)).bind fun _ => Confined.demand _ _
  · split
    · exact Confined.fail _
    · exact Confined.require _ _

end Handler

end VolumeNode
