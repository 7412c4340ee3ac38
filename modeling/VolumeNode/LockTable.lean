/-!
# Locks of volumes

Calls on one volume take turns: each holds the lock of its volume from its start to its end.
Whoever wants a lock has a handle for it.

* A handle is `fresh` before it asks for the lock, `waiting` after, and `held` once it has it.
* A mutex is a queue of handles in the order in which they asked; the first one owns it. An owner
  that was waiting learns of its turn when it is polled.
* `LockTable` holds all mutexes ever made, the handles, and for each volume in use which mutex is
  its own. A mutex is made when a volume without one is asked for. An entry is taken out again when
  a held handle is dropped and nobody is left in the queue.
* `Step` is one step of anybody, `LockTable.step` carries it out; `inUse` counts the entries.
-/

namespace VolumeNode

/-- Names a handle. -/
abbrev Handle := String

/-- Where a handle stands; `mutex` is the one that it asked for. -/
inductive Phase where
  /-- It has not asked for the lock yet. -/
  | fresh
  /-- It has asked for the lock. -/
  | waiting (mutex : Nat)
  /-- It has the lock. -/
  | held (mutex : Nat)
deriving DecidableEq, Repr

namespace Phase

/-- The mutex that a handle is queued at. -/
def mutex? : Phase → Option Nat
  | fresh => none
  | waiting m => some m
  | held m => some m

/-- Whether a handle has the lock. -/
def isHeld : Phase → Bool
  | held _ => true
  | _ => false

end Phase

/-- A handle's volume, and where it stands. -/
structure Ticket where
  volume : String
  phase : Phase
deriving DecidableEq, Repr

/-- All locks of volumes. -/
structure LockTable where
  /-- The mutex of each volume in use. -/
  entries : List (String × Nat)
  /-- The queue of each mutex, whoever asked first in front. -/
  queues : List (List Handle)
  /-- The live handles, oldest first. -/
  handles : List (Handle × Ticket)
deriving DecidableEq, Repr

namespace LockTable

/-! ## 1. Parts -/

/-- No volume is in use. -/
def empty : LockTable := ⟨[], [], []⟩

/-- The ticket of a live handle. -/
def ticket? (s : LockTable) (h : Handle) : Option Ticket :=
  s.handles.lookup h

/-- The queue of a mutex. -/
def queue (s : LockTable) (m : Nat) : List Handle :=
  s.queues[m]?.getD []

/-- The mutex of a volume in use. -/
def entry? (s : LockTable) (volume : String) : Option Nat :=
  s.entries.lookup volume

/-- How many volumes are in use. -/
def inUse (s : LockTable) : Nat :=
  s.entries.length

/-- Changes the queue of a mutex. -/
def setQueue (s : LockTable) (m : Nat) (queue : List Handle) : LockTable :=
  { s with queues := s.queues.set m queue }

/-- Moves a handle to another phase. -/
def setPhase (s : LockTable) (h : Handle) (phase : Phase) : LockTable :=
  { s with
    handles := s.handles.map fun p => if p.1 = h then (p.1, { p.2 with phase }) else p }

/-- The mutex of a volume, made if the volume was not in use. -/
def mutexOf (s : LockTable) (volume : String) : Nat × LockTable :=
  match s.entry? volume with
  | some m => (m, s)
  | none =>
    (s.queues.length,
      { s with
        entries := s.entries ++ [(volume, s.queues.length)]
        queues := s.queues ++ [[]] })

/-! ## 2. Steps -/

/-- Makes a handle for a volume. A name that is in use stays with its handle. -/
def create (s : LockTable) (h : Handle) (volume : String) : LockTable :=
  match s.ticket? h with
  | some _ => s
  | none => { s with handles := s.handles ++ [(h, ⟨volume, .fresh⟩)] }

/-- Asks for the lock: joins the queue, and owns the lock at once if the queue was empty. -/
def join (s : LockTable) (h : Handle) (volume : String) : LockTable :=
  let (m, s) := s.mutexOf volume
  let queue := s.queue m
  (s.setQueue m (queue ++ [h])).setPhase h (if queue.isEmpty then .held m else .waiting m)

/-- Lets a handle go on as far as it can. -/
def poll (s : LockTable) (h : Handle) : LockTable :=
  match s.ticket? h with
  | none => s
  | some t =>
    match t.phase with
    | .fresh => s.join h t.volume
    | .waiting m => if (s.queue m).head? = some h then s.setPhase h (.held m) else s
    | .held _ => s

/-- Takes a handle out of the queue of a mutex. -/
def leave (s : LockTable) (h : Handle) (m : Nat) : LockTable :=
  s.setQueue m ((s.queue m).filter (· ≠ h))

/-- Takes the entry of a volume out if nobody wants its mutex. -/
def sweep (s : LockTable) (volume : String) : LockTable :=
  match s.entry? volume with
  | none => s
  | some m =>
    if (s.queue m).isEmpty then { s with entries := s.entries.filter (·.1 ≠ volume) } else s

/-- Forgets a handle. -/
def forget (s : LockTable) (h : Handle) : LockTable :=
  { s with handles := s.handles.filter (·.1 ≠ h) }

/-- Drops a handle: gives the lock back, or gives up asking for it. -/
def drop (s : LockTable) (h : Handle) : LockTable :=
  match s.ticket? h with
  | none => s
  | some t =>
    match t.phase with
    | .fresh => s.forget h
    | .waiting m => (s.leave h m).forget h
    | .held m => ((s.leave h m).sweep t.volume).forget h

/-- A step of anybody who wants a lock. -/
inductive Step where
  | create (h : Handle) (volume : String)
  | poll (h : Handle)
  | drop (h : Handle)
deriving DecidableEq, Repr

/-- Carries a step out. -/
def step (s : LockTable) : Step → LockTable
  | .create h volume => s.create h volume
  | .poll h => s.poll h
  | .drop h => s.drop h

/-- Carries steps out, one after the other. -/
def run (s : LockTable) (steps : List Step) : LockTable :=
  steps.foldl step s

@[simp] theorem run_nil (s : LockTable) : s.run [] = s := rfl

@[simp] theorem run_cons (s : LockTable) (a : Step) (steps : List Step) :
    s.run (a :: steps) = (s.step a).run steps := rfl

theorem run_concat (s : LockTable) (steps : List Step) (a : Step) :
    s.run (steps ++ [a]) = (s.run steps).step a := by
  unfold run
  rw [List.foldl_append]
  rfl

end LockTable

end VolumeNode
