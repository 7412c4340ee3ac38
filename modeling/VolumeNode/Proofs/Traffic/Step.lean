import VolumeNode.Proofs.Call.Course
import VolumeNode.Proofs.Lock.Consistency

/-!
# Calls at the same time

Calls that arrive while others are under way.

* A `Job` is a call with its `Progress`: it is queued for the lock of its volume, runs step by step
  once it has the lock, and is finished when it gave the lock back. A job that is queued may be
  cancelled; one that runs waits for nothing and goes on to its end.
* `Traffic` is everything at one moment: the locks, the world, all jobs that ever arrived, and the
  order in which they were served, that is in which they got their locks.
* An `Event` is one step of anybody, in any order: a call arrives, one job advances by one step (it
  asks for the lock, takes the lock over, carries out one action, gives the lock back), or one is
  cancelled. `Traffic.step` carries it out.
* `Effect` lists all that can come of an event (`effect_step`). An event is about one job and leaves
  all others alone (`Effect.job?_of_ne`), as it does with their tickets (`Effect.ticket?_of_ne`).
-/

namespace VolumeNode

/-! ## 1. Jobs -/

/-- Whether a handle has the lock of a volume can be looked up. -/
instance (s : LockTable) (h : Handle) (v : String) : Decidable (s.Holds h v) :=
  match ht : s.ticket? h with
  | some ⟨u, .held m⟩ =>
    if hu : u = v then isTrue ⟨m, hu ▸ ht⟩
    else isFalse fun ⟨_, hh⟩ => hu (congrArg Ticket.volume (Option.some.inj (ht.symm.trans hh)))
  | some ⟨_, .fresh⟩ => isFalse fun ⟨_, hh⟩ => nomatch ht.symm.trans hh
  | some ⟨_, .waiting _⟩ => isFalse fun ⟨_, hh⟩ => nomatch ht.symm.trans hh
  | none => isFalse fun ⟨_, hh⟩ => nomatch ht.symm.trans hh

/-- How far a call is. -/
inductive Progress where
  /-- It wants the lock of its volume. -/
  | queued
  /-- It has the lock, and this is still to be done. -/
  | running (rest : Procedure (Except Refusal Unit))
  | finished (outcome : Except Refusal Unit)
  /-- It was given up before it had the lock. -/
  | cancelled

/-- A call on its way. -/
structure Job where
  call : Call
  progress : Progress

/-- The calls on their way, and what they work on. -/
structure Traffic where
  locks : LockTable
  world : MemoryWorld
  /-- All jobs that ever arrived. -/
  jobs : List (Handle × Job)
  /-- Those that got their locks, in this order. -/
  served : List Handle

namespace Traffic

/-- Nothing has arrived yet. -/
def quiet (world : MemoryWorld) : Traffic := ⟨.empty, world, [], []⟩

/-- A job that arrived. -/
def job? (s : Traffic) (h : Handle) : Option Job :=
  s.jobs.lookup h

/-- Moves a job on. -/
def setProgress (s : Traffic) (h : Handle) (progress : Progress) : Traffic :=
  { s with jobs := s.jobs.map fun p => if p.1 = h then (p.1, { p.2 with progress }) else p }

/-- A job is under way. -/
def Running (s : Traffic) (h : Handle) : Prop :=
  ∃ r rest, s.job? h = some ⟨r, .running rest⟩

/-- A job has no lock yet. -/
def Queued (s : Traffic) (h : Handle) : Prop :=
  ∃ r, s.job? h = some ⟨r, .queued⟩

/-- A job came to its end. -/
def Finished (s : Traffic) (h : Handle) : Prop :=
  ∃ r outcome, s.job? h = some ⟨r, .finished outcome⟩

/-- The call of a finished job with its outcome. -/
def result? (s : Traffic) (h : Handle) : Option (Call × Except Refusal Unit) :=
  match s.job? h with
  | some ⟨r, .finished outcome⟩ => some (r, outcome)
  | _ => none

/-- The finished calls with their outcomes, in the order in which they were served. -/
def completed (s : Traffic) : List (Call × Except Refusal Unit) :=
  s.served.filterMap s.result?

/-! ## 2. Events -/

/-- The locks after a step that is taken for a call. A call that needs no lock takes none. -/
def lockStep (s : Traffic) (r : Call) (a : LockTable.Step) : LockTable :=
  if r.needsLock then s.locks.step a else s.locks

/-- A call arrives. A name that is in use stays with its job. -/
def arrive (s : Traffic) (h : Handle) (r : Call) : Traffic :=
  match s.job? h with
  | some _ => s
  | none =>
    { s with
      locks := s.lockStep r (.create h r.volume)
      jobs := s.jobs ++ [(h, ⟨r, .queued⟩)] }

/-- Begins with a call. -/
def serve (naming : DeviceNaming) (s : Traffic) (h : Handle) (r : Call) : Traffic :=
  { s.setProgress h (.running (r.procedure naming)) with served := s.served ++ [h] }

/-- Asks for the lock of a call, and begins with the call when it has the lock. -/
def ask (naming : DeviceNaming) (s : Traffic) (h : Handle) (r : Call) : Traffic :=
  let asked := { s with locks := s.lockStep r (.poll h) }
  if r.needsLock ∧ ¬ asked.locks.Holds h r.volume then asked else asked.serve naming h r

/-- Carries out one action, or gives the lock back after the last one. -/
def proceed (s : Traffic) (h : Handle) (r : Call) : Procedure (Except Refusal Unit) → Traffic
  | .act a next =>
    let (answer, world) := a.perform MemoryTable.system s.world
    { s.setProgress h (.running (next answer)) with world }
  | .done outcome =>
    { s.setProgress h (.finished outcome) with locks := s.lockStep r (.drop h) }

/-- Lets a job take its next step. -/
def advance (naming : DeviceNaming) (s : Traffic) (h : Handle) : Traffic :=
  match s.job? h with
  | some ⟨r, .queued⟩ => s.ask naming h r
  | some ⟨r, .running rest⟩ => s.proceed h r rest
  | _ => s

/-- Gives a job up that has no lock yet. -/
def cancel (s : Traffic) (h : Handle) : Traffic :=
  match s.job? h with
  | some ⟨r, .queued⟩ => { s.setProgress h .cancelled with locks := s.lockStep r (.drop h) }
  | _ => s

/-- One step of anybody. -/
inductive Event where
  | arrive (h : Handle) (r : Call)
  | advance (h : Handle)
  | cancel (h : Handle)
deriving DecidableEq, Repr

/-- The job that an event is about. -/
def Event.handle : Event → Handle
  | arrive h _ => h
  | advance h => h
  | cancel h => h

/-- Carries an event out. -/
def step (naming : DeviceNaming) (s : Traffic) : Event → Traffic
  | .arrive h r => s.arrive h r
  | .advance h => s.advance naming h
  | .cancel h => s.cancel h

/-- Carries events out, one after the other. -/
def run (naming : DeviceNaming) (s : Traffic) (events : List Event) : Traffic :=
  events.foldl (step naming) s

theorem run_append (naming : DeviceNaming) (s : Traffic) (before after : List Event) :
    s.run naming (before ++ after) = (s.run naming before).run naming after :=
  List.foldl_append

theorem run_concat (naming : DeviceNaming) (s : Traffic) (events : List Event) (e : Event) :
    s.run naming (events ++ [e]) = (s.run naming events).step naming e :=
  run_append naming s events [e]

/-! ## 3. What an event can do -/

variable {naming : DeviceNaming} {s s' : Traffic} {e : Event} {h k : Handle} {r : Call}

/-- All that can come of an event. -/
inductive Effect (naming : DeviceNaming) (s : Traffic) : Event → Traffic → Prop
  /-- There is nothing to do. -/
  | ignored {e : Event} : Effect naming s e s
  | arrived {h : Handle} {r : Call} (new : s.job? h = none) :
      Effect naming s (.arrive h r)
        { s with
          locks := s.lockStep r (.create h r.volume)
          jobs := s.jobs ++ [(h, ⟨r, .queued⟩)] }
  /-- It has to wait for its lock. -/
  | waited {h : Handle} {r : Call} (queued : s.job? h = some ⟨r, .queued⟩)
      (still : ¬ (s.lockStep r (.poll h)).Holds h r.volume) :
      Effect naming s (.advance h) { s with locks := s.lockStep r (.poll h) }
  /-- It has its lock now. -/
  | served {h : Handle} {r : Call} (queued : s.job? h = some ⟨r, .queued⟩)
      (lock : r.needsLock = true → (s.lockStep r (.poll h)).Holds h r.volume) :
      Effect naming s (.advance h) (serve naming { s with locks := s.lockStep r (.poll h) } h r)
  | acted {h : Handle} {r : Call} {a : Action} {next : a.Answer → Procedure (Except Refusal Unit)}
      (running : s.job? h = some ⟨r, .running (.act a next)⟩) :
      Effect naming s (.advance h)
        { s.setProgress h (.running (next (a.perform MemoryTable.system s.world).1)) with
          world := (a.perform MemoryTable.system s.world).2 }
  /-- It gives its lock back. -/
  | ended {h : Handle} {r : Call} {outcome : Except Refusal Unit}
      (running : s.job? h = some ⟨r, .running (.done outcome)⟩) :
      Effect naming s (.advance h)
        { s.setProgress h (.finished outcome) with locks := s.lockStep r (.drop h) }
  | cancelled {h : Handle} {r : Call} (queued : s.job? h = some ⟨r, .queued⟩) :
      Effect naming s (.cancel h)
        { s.setProgress h .cancelled with locks := s.lockStep r (.drop h) }

theorem effect_step (naming : DeviceNaming) (s : Traffic) (e : Event) :
    Effect naming s e (s.step naming e) := by
  cases e with
  | arrive h r =>
    show Effect naming s _ (s.arrive h r)
    unfold arrive
    cases hj : s.job? h with
    | some j => exact .ignored
    | none => exact .arrived hj
  | advance h =>
    show Effect naming s _ (s.advance naming h)
    unfold advance
    cases hj : s.job? h with
    | none => exact .ignored
    | some j =>
      obtain ⟨r, progress⟩ := j
      cases progress with
      | queued =>
        show Effect naming s _ (s.ask naming h r)
        unfold ask
        by_cases hwait : r.needsLock ∧ ¬ (s.lockStep r (.poll h)).Holds h r.volume
        · dsimp only
          rw [if_pos hwait]
          exact .waited hj hwait.2
        · dsimp only
          rw [if_neg hwait]
          exact .served hj fun hlock => not_not.1 fun hh => hwait ⟨hlock, hh⟩
      | running rest =>
        cases rest with
        | done outcome => exact .ended hj
        | act a next => exact .acted hj
      | finished outcome => exact .ignored
      | cancelled => exact .ignored
  | cancel h =>
    show Effect naming s _ (s.cancel h)
    unfold cancel
    cases hj : s.job? h with
    | none => exact .ignored
    | some j =>
      obtain ⟨r, progress⟩ := j
      cases progress with
      | queued => exact .cancelled hj
      | running rest => exact .ignored
      | finished outcome => exact .ignored
      | cancelled => exact .ignored

/-! ## 4. One job at a time -/

theorem job?_quiet (world : MemoryWorld) (h : Handle) : (quiet world).job? h = none := rfl

theorem job?_setProgress (s : Traffic) (h : Handle) (progress : Progress) (k : Handle) :
    (s.setProgress h progress).job? k =
      if k = h then (s.job? h).map ({ · with progress }) else s.job? k :=
  Association.lookup_map_at s.jobs h k ({ · with progress })

theorem job?_setProgress_of_job {progress : Progress} (hj : s.job? h = some ⟨r, progress⟩)
    (progress' : Progress) (k : Handle) :
    (s.setProgress h progress').job? k = if k = h then some ⟨r, progress'⟩ else s.job? k := by
  rw [job?_setProgress, hj]
  rfl

theorem job?_arrived (hnew : s.job? h = none) (j : Job) (locks : LockTable) (k : Handle) :
    ({ s with locks, jobs := s.jobs ++ [(h, j)] } : Traffic).job? k =
      if k = h then some j else s.job? k :=
  Association.lookup_concat hnew j k

/-- **An event leaves all jobs alone but its own.** -/
theorem Effect.job?_of_ne (heffect : Effect naming s e s') (hk : k ≠ e.handle) :
    s'.job? k = s.job? k := by
  cases heffect with
  | ignored => rfl
  | arrived new => exact (job?_arrived new _ _ k).trans (if_neg hk)
  | waited queued still => rfl
  | served queued lock => exact (job?_setProgress _ _ _ k).trans (if_neg hk)
  | acted running => exact (job?_setProgress s _ _ k).trans (if_neg hk)
  | ended running => exact (job?_setProgress s _ _ k).trans (if_neg hk)
  | cancelled queued => exact (job?_setProgress s _ _ k).trans (if_neg hk)

theorem lockStep_cases (s : Traffic) (r : Call) (a : LockTable.Step) :
    s.lockStep r a = s.locks ∨ s.lockStep r a = s.locks.step a := by
  unfold lockStep
  by_cases hlock : r.needsLock = true
  · exact .inr (if_pos hlock)
  · exact .inl (if_neg hlock)

/-- The locks stay as they are, or take a step of the job's handle. -/
theorem Effect.locks (heffect : Effect naming s e s') :
    s'.locks = s.locks ∨
      ∃ a : LockTable.Step, a.handle = e.handle ∧ s'.locks = s.locks.step a := by
  have hstep : ∀ (r : Call) (a : LockTable.Step), a.handle = e.handle →
      s'.locks = s.lockStep r a →
      s'.locks = s.locks ∨
        ∃ a : LockTable.Step, a.handle = e.handle ∧ s'.locks = s.locks.step a := by
    intro r a ha hlocks
    rw [hlocks]
    rcases lockStep_cases s r a with hsame | hstep
    · exact .inl hsame
    · exact .inr ⟨a, ha, hstep⟩
  cases heffect with
  | ignored => exact .inl rfl
  | @arrived h r new => exact hstep r _ rfl rfl
  | @waited h r queued still => exact hstep r _ rfl rfl
  | @served h r queued lock => exact hstep r _ rfl rfl
  | acted running => exact .inl rfl
  | @ended h r outcome running => exact hstep r _ rfl rfl
  | @cancelled h r queued => exact hstep r _ rfl rfl

/-- An event leaves all tickets alone but the one of its job. -/
theorem Effect.ticket?_of_ne (heffect : Effect naming s e s') (hk : k ≠ e.handle) :
    s'.locks.ticket? k = s.locks.ticket? k := by
  rcases heffect.locks with hsame | ⟨a, ha, hstep⟩
  · rw [hsame]
  · rw [hstep]
    exact (LockTable.step_effect s.locks a).ticket?_of_ne (ha ▸ hk)

theorem Effect.consistent (heffect : Effect naming s e s') (hs : s.locks.Consistent) :
    s'.locks.Consistent := by
  rcases heffect.locks with hsame | ⟨a, _, hstep⟩
  · rw [hsame]
    exact hs
  · rw [hstep]
    exact hs.step a

/-- The call of a job is the one that arrived. -/
theorem Effect.call (heffect : Effect naming s e s') {j' : Job} (hj : s'.job? k = some j') :
    (∃ j, s.job? k = some j ∧ j'.call = j.call) ∨ e = .arrive k j'.call := by
  by_cases hk : k = e.handle
  · have hmoved : ∀ {j : Job} {progress : Progress} {t : Traffic}, s.job? k = some j →
        t.job? k = s.job? k → s'.job? k = (t.setProgress k progress).job? k →
        ∃ j, s.job? k = some j ∧ j'.call = j.call := by
      intro j progress t hbefore ht hafter
      rw [hj, job?_setProgress, if_pos rfl, ht, hbefore] at hafter
      cases hafter
      exact ⟨j, hbefore, rfl⟩
    cases heffect with
    | ignored => exact .inl ⟨j', hj, rfl⟩
    | @arrived h r new =>
      obtain rfl : k = h := hk
      rw [job?_arrived new, if_pos rfl] at hj
      cases hj
      exact .inr rfl
    | waited queued still => exact .inl ⟨j', hj, rfl⟩
    | @served h r queued lock =>
      obtain rfl : k = h := hk
      exact .inl (hmoved queued rfl rfl)
    | @acted h r a next running =>
      obtain rfl : k = h := hk
      exact .inl (hmoved running rfl rfl)
    | @ended h r outcome running =>
      obtain rfl : k = h := hk
      exact .inl (hmoved running rfl rfl)
    | @cancelled h r queued =>
      obtain rfl : k = h := hk
      exact .inl (hmoved queued rfl rfl)
  · rw [heffect.job?_of_ne hk] at hj
    exact .inl ⟨j', hj, rfl⟩

end Traffic

end VolumeNode
