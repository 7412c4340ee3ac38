import VolumeNode.Proofs.Call.Confinement
import VolumeNode.Proofs.Call.Run

/-!
# The actions of a run

Running a handler gives its outcome and the world it leaves. This module tells which actions were
taken on the way there.

* `Procedure.steps` are the actions of a run in their order, each with the world that it is taken
  in; `Procedure.actions` are these actions alone. `Call.requests` are those by which a call asks
  the mount system for a change, `Call.effects` those that change anything at all.
* `Handler.Runs` says how a handler ends together with the actions of one kind that it takes. The
  rules below put it together step by step: `Runs.bind` for two steps in a row, `Runs.fail` for a
  step that ends the handler, and `Runs.quiet` for steps that take no action of the kind.
* `Action.Granted` says that the answer to an action is a success.
-/

namespace VolumeNode

/-! ## 1. Procedures -/

/-- Whether an action changes anything. -/
def Action.changes (a : Action) : Bool :=
  a.changesMounts || a.changesTree

namespace Procedure

variable {α β σ : Type}

/-- The actions that a course takes, in their order, each with the world that it is taken in. -/
def steps (m : MountSystem σ) : Procedure α → World σ → List (World σ × Action)
  | done _, _ => []
  | act a next, w => (w, a) :: (next (a.perform m w).1).steps m (a.perform m w).2

/-- The actions that a course takes, in their order. -/
def actions (m : MountSystem σ) (p : Procedure α) (w : World σ) : List Action :=
  (p.steps m w).map (·.2)

theorem steps_bind (m : MountSystem σ) (p : Procedure α) (f : α → Procedure β) (w : World σ) :
    (p >>= f).steps m w = p.steps m w ++ (f (p.run m w).1).steps m (p.run m w).2 := by
  show (p.bind f).steps m w = _
  induction p generalizing w with
  | done a => rfl
  | act a next ih => exact congrArg ((w, a) :: ·) (ih _ _)

theorem actions_bind (m : MountSystem σ) (p : Procedure α) (f : α → Procedure β) (w : World σ) :
    (p >>= f).actions m w = p.actions m w ++ (f (p.run m w).1).actions m (p.run m w).2 := by
  unfold actions
  rw [steps_bind, List.map_append]

/-- A confined course takes no actions but those that it is confined to. -/
theorem Confined.of_mem_actions {P : Action → Prop} {p : Procedure α} (hp : p.Confined P)
    {m : MountSystem σ} {w : World σ} {a : Action} (ha : a ∈ p.actions m w) : P a := by
  induction p generalizing w with
  | done x => cases ha
  | act b next ih =>
    rcases List.mem_cons.1 ha with rfl | hrest
    · exact hp.1
    · exact ih _ (hp.2 _) hrest

end Procedure

namespace Call

/-- The requests to mount, format, bind or unmount that a call makes, in their order. -/
def requests {σ : Type} (m : MountSystem σ) (naming : DeviceNaming) (r : Call) (w : World σ) :
    List Action :=
  ((r.procedure naming).actions m w).filter (·.changesMounts)

/-- The requests and the changes of the file tree that a call makes, in their order. -/
def effects {σ : Type} (m : MountSystem σ) (naming : DeviceNaming) (r : Call) (w : World σ) :
    List Action :=
  ((r.procedure naming).actions m w).filter (·.changes)

end Call

/-! ## 2. Answers -/

/-- An action is answered by a success. -/
def Action.Granted {σ : Type} (m : MountSystem σ) (w : World σ) (a : Action) : Prop :=
  match a, (a.perform m w).1 with
  | .findDevice .., x => ∃ d, x = .ok d
  | .stat _, x | .lstat _, x => ∃ e, x = .ok e
  | .makeDirectory .., x | .removeDirectory _, x => x = .ok ()
  | .entries, x => ∃ rs, x = .ok rs
  | .mount .., x | .mountFormatted .., x | .bindTo .., x | .unmount _, x => x = .ok ()

/-! ## 3. Handlers -/

namespace Handler

variable {α β σ : Type} {kind : Action → Bool} {m : MountSystem σ} {w w₁ w' : World σ}

/-- A handler ends so, and takes these actions of a kind until then. -/
structure Runs (kind : Action → Bool) (m : MountSystem σ) (w : World σ) (h : Handler α)
    (taken : List Action) (outcome : Except Refusal α) (w' : World σ) : Prop where
  run : h.run.run m w = (outcome, w')
  taken : (h.run.actions m w).filter kind = taken

namespace Runs

/-- One handler after another. -/
theorem bind {h : Handler α} {f : α → Handler β} {before after : List Action} {a : α}
    {outcome : Except Refusal β} (hh : Runs kind m w h before (.ok a) w₁)
    (hf : Runs kind m w₁ (f a) after outcome w') :
    Runs kind m w (h >>= f) (before ++ after) outcome w' where
  run := by rw [run_bind, hh.run]; exact hf.run
  taken := by
    rw [ExceptT.run_bind, Procedure.actions_bind, List.filter_append, hh.taken, hh.run]
    exact congrArg (before ++ ·) hf.taken

/-- Nothing comes after a handler that fails. -/
theorem fail {h : Handler α} {taken : List Action} {e : Refusal}
    (hh : Runs kind m w h taken (.error e) w') (f : α → Handler β) :
    Runs kind m w (h >>= f) taken (.error e) w' where
  run := by rw [run_bind, hh.run]
  taken := by
    rw [ExceptT.run_bind, Procedure.actions_bind, List.filter_append, hh.taken, hh.run]
    exact List.append_nil _

/-- A handler that is confined to other kinds takes no action of this one. -/
theorem quiet {h : Handler α} {outcome : Except Refusal α}
    (hh : Confined (fun a => kind a = false) h) (hrun : h.run.run m w = (outcome, w')) :
    Runs kind m w h [] outcome w' where
  run := hrun
  taken := by
    rw [List.filter_eq_nil_iff]
    intro a ha hkind
    have hother : kind a = false := Procedure.Confined.of_mem_actions hh ha
    rw [hother] at hkind
    cases hkind

/-- A handler that starts with a step without actions of the kind. -/
theorem quiet_bind {h : Handler α} {f : α → Handler β} {a : α} {taken : List Action}
    {outcome : Except Refusal β} (hh : Runs kind m w h [] (.ok a) w₁)
    (hf : Runs kind m w₁ (f a) taken outcome w') : Runs kind m w (h >>= f) taken outcome w' :=
  hh.bind hf

theorem ask {a : Action} (ha : kind a = true) :
    Runs kind m w (ask a) [a] (.ok (a.perform m w).1) (a.perform m w).2 where
  run := run_ask m w a
  taken := by
    show [a].filter kind = [a]
    rw [List.filter_cons_of_pos ha, List.filter_nil]

theorem pure (a : α) : Runs kind m w (pure a : Handler α) [] (.ok a) w :=
  quiet (Confined.pure a) rfl

theorem throw (e : Refusal) : Runs kind m w (throw e : Handler α) [] (.error e) w :=
  quiet (Confined.fail e) rfl

theorem ofExcept (x : Except Refusal α) : Runs kind m w (ofExcept x) [] x w :=
  quiet (Confined.ofExcept x) (run_ofExcept m w x)

theorem demand {ε : Type} (x : Except ε α) (cause : ε → Refusal) :
    Runs kind m w (demand x cause) [] (x.mapError cause) w :=
  quiet (Confined.demand x cause) (run_demand m w x cause)

theorem require (condition : Bool) (cause : Refusal) :
    Runs kind m w (require condition cause) [] (if condition then .ok () else .error cause) w :=
  quiet (Confined.require condition cause) (run_require m w condition cause)

/-- An action, with what its answer means for the handler. -/
theorem request {a : Action} (ha : kind a = true) (meaning : a.Answer → Except Refusal α) :
    Runs kind m w (Handler.ask a >>= fun answer => Handler.ofExcept (meaning answer)) [a]
      (meaning (a.perform m w).1) (a.perform m w).2 :=
  (Runs.ask ha).bind (.ofExcept _)

end Runs

/-! ## 4. Steps that calls share -/

/-- A kind of actions has none that only look around. -/
def Changing (kind : Action → Bool) : Prop :=
  Looks fun a => kind a = false

theorem changing_changesMounts : Changing (·.changesMounts) :=
  fun _ hmounts _ => hmounts

theorem changing_changes : Changing (·.changes) := by
  intro a hmounts htree
  show (a.changesMounts || a.changesTree) = false
  rw [hmounts, htree]
  rfl

variable (m w)

theorem runs_findDevice (hkind : Changing kind) (naming : DeviceNaming) (volume : String) :
    Runs kind m w (findDevice naming volume) [] (naming.device w.tree volume) w :=
  .quiet (Confined.findDevice hkind naming volume) (run_findDevice m w naming volume)

theorem runs_requireDirectory (hkind : Changing kind) (path : String) :
    Runs kind m w (requireDirectory path) [] (directoryCheck w.tree path) w :=
  .quiet (Confined.requireDirectory hkind path) (run_requireDirectory m w path)

theorem runs_requireTarget (path : String) :
    Runs kind m w (requireTarget path) [] (targetCheck path) w := by
  refine .quiet ?_ (run_requireTarget m w path)
  exact (Confined.require _ _).bind fun _ => Confined.ofExcept _

theorem runs_entriesOf (hkind : Changing kind) (device : Device)
    {x : Except MountFailure (List MountEntry)} {s : σ} (h : m.entries w.tree w.mounts = (x, s)) :
    Runs kind m w (entriesOf device) []
      ((x.mapError .unreadableTable).map (·.filter (·.mountsNode device.node)))
      { w with mounts := s } := by
  refine .quiet (Confined.entriesOf hkind device) ?_
  unfold entriesOf
  rw [run_bind, run_readEntries_of_answer m w h]
  cases x <;> rfl

theorem runs_entriesAt (hkind : Changing kind) (path : String)
    {x : Except MountFailure (List MountEntry)} {s : σ} (h : m.entries w.tree w.mounts = (x, s)) :
    Runs kind m w (entriesAt path) []
      ((x.mapError .unreadableTable).map (·.filter (·.path == path))) { w with mounts := s } := by
  refine .quiet (Confined.entriesAt hkind path) ?_
  unfold entriesAt
  rw [run_bind, run_readEntries_of_answer m w h]
  cases x <;> rfl

/-- A target is made without a request to the mount system. -/
theorem runs_makeTarget (path : String) :
    Runs (·.changesMounts) m w (makeTarget path) []
      ((makeTarget? w.tree path).map fun _ => ())
      { w with tree := (makeTarget? w.tree path).toOption.getD w.tree } := by
  refine .quiet (Confined.makeTarget (fun _ hmounts => hmounts) path) ?_
  rw [run_makeTarget]
  cases makeTarget? w.tree path <;> rfl

end Handler

end VolumeNode
