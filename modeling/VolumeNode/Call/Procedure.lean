import VolumeNode.FileTree.Change
import VolumeNode.Volume.DeviceLink

/-!
# Procedures

A call of the service proceeds step by step, and others may act between two steps. So a call is kept
as a tree of its steps.

* An `Action` is one step: a question about the file tree, a change of it, or a request to the
  mount system. `Action.Answer` is the type of what comes back.
* A `Procedure` is done, or goes on after the answer to an action. `run` carries it out on a
  `World`, the file tree with the state of a mount system; `run_bind` says that one procedure
  after another starts where the first one ended.
* A `Handler` is a procedure that may fail for a cause.
-/

namespace VolumeNode

/-! ## 1. Actions -/

/-- One step of a call. -/
inductive Action where
  /-- Finds the device of a volume. -/
  | findDevice (naming : DeviceNaming) (volume : String)
  /-- What a path leads to, links followed. -/
  | stat (path : String)
  /-- What a path leads to, a link at its end not followed. -/
  | lstat (path : String)
  | makeDirectory (path : String) (mode : Nat)
  | removeDirectory (path : String)
  /-- Reads the mount table. -/
  | entries
  | mount (source target fsType : String) (flags : List String)
  | mountFormatted (source target fsType : String) (flags : List String)
  | bindTo (source target : String) (flags : List String)
  | unmount (target : String)
deriving DecidableEq, Repr

namespace Action

/-- What comes back from an action. -/
abbrev Answer : Action → Type
  | findDevice .. => Except Refusal Device
  | stat _ | lstat _ => Except SystemError Entry
  | makeDirectory .. | removeDirectory _ => Except SystemError Unit
  | entries => Except MountFailure (List MountEntry)
  | mount .. | mountFormatted .. | bindTo .. | unmount _ => Except MountFailure Unit

/-- Whether an action mounts, formats or unmounts. -/
def changesMounts : Action → Bool
  | mount .. | mountFormatted .. | bindTo .. | unmount _ => true
  | _ => false

/-- Whether an action changes the file tree. -/
def changesTree : Action → Bool
  | makeDirectory .. | removeDirectory _ => true
  | _ => false

end Action

/-- What actions work on. -/
structure World (σ : Type) where
  tree : FileTree
  mounts : σ
deriving DecidableEq, Repr

namespace World

variable {σ : Type}

/-- Keeps a change of the tree, or the refusal of it. -/
def setTree (w : World σ) : Except SystemError FileTree → Except SystemError Unit × World σ
  | .ok tree => (.ok (), { w with tree })
  | .error e => (.error e, w)

/-- A change of the tree is no matter of the mount system. -/
@[simp] theorem mounts_setTree (w : World σ) (x : Except SystemError FileTree) :
    (w.setTree x).2.mounts = w.mounts := by
  cases x <;> rfl

/-- Takes an answer of the mount system with its new state. -/
def setMounts {α : Type} (w : World σ) (reply : α × σ) : α × World σ :=
  (reply.1, { w with mounts := reply.2 })

end World

/-- Carries an action out. -/
def Action.perform {σ : Type} (m : MountSystem σ) (w : World σ) : (a : Action) → a.Answer × World σ
  | .findDevice naming volume => (naming.device w.tree volume, w)
  | .stat path => (w.tree.stat path, w)
  | .lstat path => (w.tree.lstat path, w)
  | .makeDirectory path mode => w.setTree (w.tree.makeDirectory path mode)
  | .removeDirectory path => w.setTree (w.tree.removeDirectory path)
  | .entries => w.setMounts (m.entries w.tree w.mounts)
  | .mount source target fsType flags =>
    w.setMounts (m.mount source target fsType flags w.tree w.mounts)
  | .mountFormatted source target fsType flags =>
    w.setMounts (m.mountFormatted source target fsType flags w.tree w.mounts)
  | .bindTo source target flags =>
    w.setMounts (m.bindTo source target flags w.tree w.mounts)
  | .unmount target => w.setMounts (m.unmount target w.tree w.mounts)

/-- An action that does not change the tree leaves it as it is. -/
theorem Action.tree_perform {σ : Type} (m : MountSystem σ) (w : World σ) {a : Action}
    (h : a.changesTree = false) : (a.perform m w).2.tree = w.tree := by
  cases a <;> first | rfl | simp [changesTree] at h

/-- An action that neither mounts nor unmounts leaves the mounts as they are, if reading the table
    does. -/
theorem Action.mounts_perform {σ : Type} {m : MountSystem σ}
    (hread : ∀ t s, (m.entries t s).2 = s) (w : World σ) {a : Action}
    (h : a.changesMounts = false) : (a.perform m w).2.mounts = w.mounts := by
  cases a with
  | findDevice | stat | lstat => rfl
  | makeDirectory | removeDirectory => exact w.mounts_setTree _
  | entries => exact hread w.tree w.mounts
  | mount | mountFormatted | bindTo | unmount => cases h

/-! ## 2. Procedures -/

/-- A course of actions that ends in a result. -/
inductive Procedure (α : Type) : Type where
  | done (a : α)
  | act (a : Action) (next : a.Answer → Procedure α)

namespace Procedure

variable {α β γ σ : Type}

/-- One course of actions after another. -/
def bind : Procedure α → (α → Procedure β) → Procedure β
  | done a, f => f a
  | act a next, f => act a fun answer => (next answer).bind f

/-- A single action. -/
def ask (a : Action) : Procedure a.Answer :=
  act a done

instance : Monad Procedure where
  pure := done
  bind := bind

@[simp] theorem bind_done (a : α) (f : α → Procedure β) : (done a).bind f = f a := rfl

@[simp] theorem bind_act (a : Action) (next : a.Answer → Procedure α) (f : α → Procedure β) :
    (act a next).bind f = act a fun answer => (next answer).bind f := rfl

theorem bind_done_right (p : Procedure α) : p.bind done = p := by
  induction p with
  | done a => rfl
  | act a next ih => simp [bind, ih]

theorem bind_assoc (p : Procedure α) (f : α → Procedure β) (g : β → Procedure γ) :
    (p.bind f).bind g = p.bind fun a => (f a).bind g := by
  induction p with
  | done a => rfl
  | act a next ih => simp [bind, ih]

instance : LawfulMonad Procedure :=
  LawfulMonad.mk' Procedure
    (fun p => bind_done_right p)
    (fun _ _ => rfl)
    (fun p f g => bind_assoc p f g)

/-- Carries a course of actions out. -/
def run (m : MountSystem σ) : Procedure α → World σ → α × World σ
  | done a, w => (a, w)
  | act a next, w => (next (a.perform m w).1).run m (a.perform m w).2

@[simp] theorem run_done (m : MountSystem σ) (a : α) (w : World σ) :
    (done a).run m w = (a, w) := rfl

@[simp] theorem run_pure (m : MountSystem σ) (a : α) (w : World σ) :
    (pure a : Procedure α).run m w = (a, w) := rfl

@[simp] theorem run_ask (m : MountSystem σ) (a : Action) (w : World σ) :
    (ask a).run m w = a.perform m w := rfl

/-- The second course starts where the first one ended. -/
@[simp] theorem run_bind (m : MountSystem σ) (p : Procedure α) (f : α → Procedure β) (w : World σ) :
    (p >>= f).run m w = (f (p.run m w).1).run m (p.run m w).2 := by
  show (p.bind f).run m w = _
  induction p generalizing w with
  | done a => rfl
  | act a next ih => exact ih _ _

/-- What every action keeps, a whole course keeps. -/
theorem keeps_run {m : MountSystem σ} {P : World σ → Prop}
    (hact : ∀ (a : Action) (w : World σ), P w → P (a.perform m w).2) (p : Procedure α)
    {w : World σ} (h : P w) : P (p.run m w).2 := by
  induction p generalizing w with
  | done a => exact h
  | act a next ih => exact ih _ (hact a w h)

end Procedure

/-! ## 3. Handlers -/

/-- A course of actions that may fail for a cause. -/
abbrev Handler (α : Type) := ExceptT Refusal Procedure α

namespace Handler

/-- A single action. -/
def ask (a : Action) : Handler a.Answer :=
  ExceptT.lift (Procedure.ask a)

/-- Goes on with a value, or fails. -/
def ofExcept {α : Type} (x : Except Refusal α) : Handler α :=
  ExceptT.mk (pure x)

/-- Goes on with what came back, or fails for a cause made from the refusal. -/
def demand {ε α : Type} (x : Except ε α) (cause : ε → Refusal) : Handler α :=
  ofExcept (x.mapError cause)

/-- Goes on if a condition holds, and fails otherwise. -/
def require (condition : Bool) (cause : Refusal) : Handler Unit :=
  if condition then pure () else throw cause

end Handler

end VolumeNode
