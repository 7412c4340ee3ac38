import VolumeNode.Proofs.Lock.Consistency

/-!
# Volumes do not get in each other's way

All volumes share one table, yet each behaves as if it had a lock of its own.

* `view` is what is seen of one volume: where its handles stand (`Standing`, whichever mutex they
  are at), and who is in line, if the volume has an entry.
* `VolumeView.step` is one lock alone: a line in which the first one may hold the lock. A step on a
  handle of the volume does to the view what it does to such a lock (`Consistent.view_step`), any
  other step does nothing to it (`Consistent.view_step_of_ne`).
* `alone` deletes the steps on handles of other volumes from a run.
* **`undisturbed_run`**: after every step, what is seen of a volume is what is seen of it in the run
  without these steps.
-/

namespace VolumeNode

/-- Where a handle stands, whichever mutex it is at. -/
inductive Standing where
  | fresh
  | waiting
  | held
deriving DecidableEq, Repr

/-- Where a handle in a phase stands. -/
def Phase.standing : Phase → Standing
  | fresh => .fresh
  | waiting _ => .waiting
  | held _ => .held

namespace LockTable

/-! ## 1. One lock alone -/

/-- What is seen of one volume. -/
@[ext] structure VolumeView where
  /-- Where each handle of the volume stands. -/
  standing : Handle → Option Standing
  /-- Who is in line, if the volume has an entry. -/
  line : Option (List Handle)

namespace VolumeView

/-- Moves one handle. -/
def put (x : VolumeView) (h : Handle) (standing : Option Standing) : VolumeView :=
  { x with standing := fun k => if k = h then standing else x.standing k }

/-- Changes the line. -/
def setLine (x : VolumeView) (line : Option (List Handle)) : VolumeView :=
  { x with line }

/-- Makes a handle. -/
def create (x : VolumeView) (h : Handle) : VolumeView :=
  match x.standing h with
  | some _ => x
  | none => x.put h (some .fresh)

/-- Lets a handle join the line, or take the lock if it is the first one in line. -/
def poll (x : VolumeView) (h : Handle) : VolumeView :=
  match x.standing h with
  | none => x
  | some .fresh =>
    (x.put h (some (if x.line.getD [] = [] then .held else .waiting))).setLine
      (some (x.line.getD [] ++ [h]))
  | some .waiting => if (x.line.getD []).head? = some h then x.put h (some .held) else x
  | some .held => x

/-- Drops a handle. When the last one in line gives the lock back, the entry goes too. -/
def drop (x : VolumeView) (h : Handle) : VolumeView :=
  match x.standing h with
  | none => x
  | some .fresh => x.put h none
  | some .waiting => (x.put h none).setLine (x.line.map (·.filter (· ≠ h)))
  | some .held => (x.put h none).setLine ((x.line.map (·.filter (· ≠ h))).filter (· ≠ []))

/-- What a step does to a lock that has no others beside it. -/
def step (x : VolumeView) : Step → VolumeView
  | .create h _ => x.create h
  | .poll h => x.poll h
  | .drop h => x.drop h

section Cases

variable {x : VolumeView} {h : Handle}

theorem create_of_some {y : Standing} (hx : x.standing h = some y) : x.create h = x := by
  unfold create
  rw [hx]

theorem create_of_none (hx : x.standing h = none) : x.create h = x.put h (some .fresh) := by
  unfold create
  rw [hx]

theorem poll_of_none (hx : x.standing h = none) : x.poll h = x := by
  unfold poll
  rw [hx]

theorem poll_of_fresh (hx : x.standing h = some .fresh) :
    x.poll h = (x.put h (some (if x.line.getD [] = [] then .held else .waiting))).setLine
      (some (x.line.getD [] ++ [h])) := by
  unfold poll
  rw [hx]

theorem poll_of_waiting (hx : x.standing h = some .waiting) :
    x.poll h = if (x.line.getD []).head? = some h then x.put h (some .held) else x := by
  unfold poll
  rw [hx]

theorem poll_of_held (hx : x.standing h = some .held) : x.poll h = x := by
  unfold poll
  rw [hx]

theorem drop_of_fresh (hx : x.standing h = some .fresh) : x.drop h = x.put h none := by
  unfold drop
  rw [hx]

theorem drop_of_waiting (hx : x.standing h = some .waiting) :
    x.drop h = (x.put h none).setLine (x.line.map (·.filter (· ≠ h))) := by
  unfold drop
  rw [hx]

theorem drop_of_held (hx : x.standing h = some .held) :
    x.drop h = (x.put h none).setLine ((x.line.map (·.filter (· ≠ h))).filter (· ≠ [])) := by
  unfold drop
  rw [hx]

end Cases

end VolumeView

/-! ## 2. What is seen of a volume -/

/-- Where a handle of a volume stands. -/
def standing? (s : LockTable) (v : String) (h : Handle) : Option Standing :=
  match s.ticket? h with
  | some t => if t.volume = v then some t.phase.standing else none
  | none => none

/-- Who is in line for a volume, if it has an entry. -/
def line? (s : LockTable) (v : String) : Option (List Handle) :=
  (s.entry? v).map s.queue

/-- What is seen of a volume. -/
def view (s : LockTable) (v : String) : VolumeView := ⟨s.standing? v, s.line? v⟩

/-- The volume that a step makes a handle for. -/
def Step.newVolume? : Step → Option String
  | .create _ v => some v
  | _ => none

/-- The volume of the handle that a step is about. A name that is in use stays with its handle. -/
def volumeOf (s : LockTable) (a : Step) : Option String :=
  ((s.ticket? a.handle).map (·.volume)).or a.newVolume?

section Views

variable {s s' : LockTable} {a : Step} {h k : Handle} {u v : String} {p : Phase} {m : Nat}

theorem standing?_of_ticket (ht : s.ticket? h = some ⟨v, p⟩) :
    s.standing? v h = some p.standing := by
  unfold standing?
  rw [ht]
  exact if_pos rfl

theorem standing?_of_none (ht : s.ticket? h = none) : s.standing? v h = none := by
  unfold standing?
  rw [ht]

theorem standing?_eq_some_iff {x : Standing} :
    s.standing? v h = some x ↔ ∃ p, s.ticket? h = some ⟨v, p⟩ ∧ p.standing = x := by
  unfold standing?
  cases ht : s.ticket? h with
  | none => simp
  | some t =>
    obtain ⟨w, p⟩ := t
    by_cases hw : w = v
    · simp [hw]
    · simp [hw]

theorem standing?_eq_none_iff :
    s.standing? v h = none ↔ ∀ t, s.ticket? h = some t → t.volume ≠ v := by
  unfold standing?
  cases s.ticket? h with
  | none => simp
  | some t => simp

theorem line?_of_entry (he : s.entry? v = some m) : s.line? v = some (s.queue m) := by
  unfold line?
  rw [he]
  rfl

theorem line?_of_none (he : s.entry? v = none) : s.line? v = none := by
  unfold line?
  rw [he]
  rfl

/-- Whoever asks for a volume joins the line that is seen. -/
theorem getD_line? (hs : Consistent s) (v : String) :
    (s.line? v).getD [] = s.queue (s.mutexOf v).1 := by
  cases he : s.entry? v with
  | some m => rw [line?_of_entry he, mutexOf_of_entry he, Option.getD_some]
  | none =>
    rw [line?_of_none he, Option.getD_none]
    refine ((hs.queue_mutexOf_eq_nil_iff v).2 fun k hk => ?_).symm
    obtain ⟨m, hm, _⟩ := hs.exists_queue hk
    rw [he] at hm
    cases hm

/-- A step on a handle leaves the standings of all others alone. -/
theorem StepEffect.standing?_of_ne (heffect : StepEffect s a s') (hk : k ≠ a.handle) :
    s'.standing? v k = s.standing? v k := by
  unfold standing?
  rw [heffect.ticket?_of_ne hk]

/-- The handle of a step belongs to the volume of the step, before and after it. -/
theorem volumeOf_of_ticket {t : Ticket} (ht : s.ticket? a.handle = some t) :
    s.volumeOf a = some t.volume := by
  unfold volumeOf
  rw [ht]
  rfl

theorem volumeOf_of_none (ht : s.ticket? a.handle = none) : s.volumeOf a = a.newVolume? := by
  unfold volumeOf
  rw [ht]
  rfl

theorem StepEffect.volumeOf_of_ticket (heffect : StepEffect s a s') {t : Ticket}
    (ht : s'.ticket? a.handle = some t) : s.volumeOf a = some t.volume := by
  cases heffect with
  | taken live => exact LockTable.volumeOf_of_ticket ht
  | @created h u new =>
    cases ((ticket?_create new ⟨u, .fresh⟩ h).trans (if_pos rfl)).symm.trans ht
    exact volumeOf_of_none new
  | kept asked behind => exact LockTable.volumeOf_of_ticket ht
  | @joined h u fresh =>
    cases ((ticket?_join fresh h).trans (if_pos rfl)).symm.trans ht
    exact LockTable.volumeOf_of_ticket (t := ⟨u, .fresh⟩) fresh
  | @acquired h u m waiting front =>
    have hself := (ticket?_setPhase s h (.held m) h).trans (if_pos rfl)
    rw [waiting] at hself
    cases hself.symm.trans ht
    exact LockTable.volumeOf_of_ticket (t := ⟨u, .waiting m⟩) waiting
  | missing none => exact LockTable.volumeOf_of_ticket ht
  | @discarded h u fresh =>
    cases ((ticket?_forget s h h).trans (if_pos rfl)).symm.trans ht
  | @cancelled h u m waiting =>
    cases ((ticket?_forget (s.leave h m) h h).trans (if_pos rfl)).symm.trans ht
  | @released h u m held =>
    cases ((ticket?_forget ((s.leave h m).sweep u) h h).trans (if_pos rfl)).symm.trans ht

/-! ## 3. A step, seen from one volume -/

/-- Who asks for a volume stands at the end of its line. -/
theorem line?_join_self (hs : Consistent s) (h : Handle) (v : String) :
    (s.join h v).line? v = some ((s.line? v).getD [] ++ [h]) := by
  have he : entry? (s.join h v) v = some (s.mutexOf v).1 := by
    rw [join_eq, entry?_setPhase, entry?_setQueue, entry?_mutexOf, if_pos rfl]
  rw [line?_of_entry he, hs.queue_join, if_pos rfl, getD_line? hs]

theorem line?_leave_self (he : s.entry? v = some m) (h : Handle) :
    (s.leave h m).line? v = (s.line? v).map (·.filter (· ≠ h)) := by
  rw [line?_of_entry he, line?_of_entry (s := s.leave h m) he, queue_leave, if_pos rfl]
  rfl

theorem line?_sweep_self (he : s.entry? v = some m) :
    (s.sweep v).line? v = (s.line? v).filter (· ≠ []) := by
  rw [line?_of_entry he]
  by_cases hq : s.queue m = []
  · rw [line?_of_none (by rw [entry?_sweep_self he, if_pos hq]), hq]
    rfl
  · rw [line?_of_entry (m := m) (by rw [entry?_sweep_self he, if_neg hq]), queue_sweep,
      Option.filter_some, if_pos (decide_eq_true hq)]

/-- A line is the same if its volume has the same entry and the mutex the same queue. -/
theorem line?_congr (hentry : s'.entry? v = s.entry? v)
    (hqueue : ∀ m, s.entry? v = some m → s'.queue m = s.queue m) : s'.line? v = s.line? v := by
  cases he : s.entry? v with
  | none => rw [line?_of_none he, line?_of_none (hentry.trans he)]
  | some m => rw [line?_of_entry he, line?_of_entry (hentry.trans he), hqueue m he]

theorem line?_join_of_ne (hs : Consistent s) (h : Handle) (huv : v ≠ u) :
    (s.join h u).line? v = s.line? v := by
  refine line?_congr ?_ fun m he => ?_
  · rw [join_eq, entry?_setPhase, entry?_setQueue, entry?_mutexOf, if_neg huv]
  · have hv : entry? (s.mutexOf u).2 v = some m := by rw [entry?_mutexOf, if_neg huv, he]
    have hu : entry? (s.mutexOf u).2 u = some (s.mutexOf u).1 := by rw [entry?_mutexOf, if_pos rfl]
    rw [hs.queue_join, if_neg]
    rintro rfl
    exact huv ((hs.mutexOf u).own v u _ hv hu)

theorem line?_leave_of_ne (hs : Consistent s) (hu : s.entry? u = some m) (h : Handle)
    (huv : v ≠ u) : (s.leave h m).line? v = s.line? v := by
  refine line?_congr rfl fun n he => ?_
  rw [queue_leave, if_neg]
  rintro rfl
  exact huv (hs.own v u _ he hu)

theorem line?_sweep_of_ne (s : LockTable) (huv : v ≠ u) : (s.sweep u).line? v = s.line? v :=
  line?_congr (entry?_sweep_of_ne s huv) fun m _ => queue_sweep s u m

/-- A step on a handle of a volume moves that handle at most. -/
theorem StepEffect.standing?_eq (heffect : StepEffect s a s') {x : Option Standing}
    (hself : s'.standing? v a.handle = x) :
    s'.standing? v = fun k => if k = a.handle then x else s.standing? v k := by
  funext k
  by_cases hk : k = a.handle
  · rw [if_pos hk, hk, hself]
  · rw [if_neg hk, heffect.standing?_of_ne hk]

/-- A step that does not move its handle moves none. -/
theorem StepEffect.standing?_eq_self (heffect : StepEffect s a s')
    (hself : s'.standing? v a.handle = s.standing? v a.handle) :
    s'.standing? v = s.standing? v := by
  funext k
  by_cases hk : k = a.handle
  · rw [hk, hself]
  · rw [heffect.standing?_of_ne hk]

/-- **A step on a handle of a volume does to the view what it does to a lock alone.** -/
theorem Consistent.view_step (hs : Consistent s) (heffect : StepEffect s a s')
    (hv : s.volumeOf a = some v) : s'.view v = (s.view v).step a := by
  have hticket : ∀ t, s.ticket? a.handle = some t → t.volume = v := fun t ht =>
    Option.some.inj ((LockTable.volumeOf_of_ticket ht).symm.trans hv)
  cases heffect with
  | @taken h u t live =>
    obtain ⟨w, p⟩ := t
    obtain rfl : w = v := hticket _ live
    have hstands : (s.view w).standing h = some p.standing := standing?_of_ticket live
    exact (VolumeView.create_of_some hstands).symm
  | @created h u new =>
    obtain rfl : u = v := Option.some.inj ((volumeOf_of_none (a := .create h u) new).symm.trans hv)
    have hstands : (s.view u).standing h = none := standing?_of_none new
    have hself := standing?_of_ticket ((ticket?_create new ⟨u, .fresh⟩ h).trans (if_pos rfl))
    refine Eq.trans ?_ (VolumeView.create_of_none hstands).symm
    exact VolumeView.ext ((StepEffect.created new).standing?_eq hself) rfl
  | @kept h asked behind =>
    cases ht : s.ticket? h with
    | none =>
      have hstands : (s.view v).standing h = none := standing?_of_none ht
      exact (VolumeView.poll_of_none hstands).symm
    | some t =>
      obtain ⟨w, p⟩ := t
      obtain rfl : w = v := hticket _ ht
      cases p with
      | fresh => exact absurd ht (asked w)
      | waiting m =>
        have hstands : (s.view w).standing h = some .waiting := standing?_of_ticket ht
        have hline : (s.view w).line = some (s.queue m) :=
          line?_of_entry (hs.entered h _ m ht rfl)
        refine Eq.trans ?_ (VolumeView.poll_of_waiting hstands).symm
        rw [hline, Option.getD_some, if_neg (behind w m ht)]
      | held m =>
        have hstands : (s.view w).standing h = some .held := standing?_of_ticket ht
        exact (VolumeView.poll_of_held hstands).symm
  | @joined h u fresh =>
    obtain rfl : u = v := hticket _ fresh
    have hstands : (s.view u).standing h = some .fresh := standing?_of_ticket fresh
    have hself := standing?_of_ticket ((ticket?_join fresh h).trans (if_pos rfl))
    refine Eq.trans ?_ (VolumeView.poll_of_fresh hstands).symm
    refine VolumeView.ext (((StepEffect.joined fresh).standing?_eq hself).trans ?_)
      (line?_join_self hs h u)
    show _ = fun k => if k = h then
      some (if (s.line? u).getD [] = [] then Standing.held else .waiting) else s.standing? u k
    rw [getD_line? hs]
    split <;> rfl
  | @acquired h u m waiting front =>
    obtain rfl : u = v := hticket _ waiting
    have hstands : (s.view u).standing h = some .waiting := standing?_of_ticket waiting
    have hline : (s.view u).line = some (s.queue m) :=
      line?_of_entry (hs.entered h _ m waiting rfl)
    have hheld := (ticket?_setPhase s h (.held m) h).trans (if_pos rfl)
    rw [waiting] at hheld
    refine Eq.trans ?_ (VolumeView.poll_of_waiting hstands).symm
    rw [hline, Option.getD_some, if_pos front]
    exact VolumeView.ext
      ((StepEffect.acquired waiting front).standing?_eq (standing?_of_ticket hheld)) rfl
  | @missing h none =>
    have hnone := volumeOf_of_none (a := .drop h) none
    rw [hv] at hnone
    cases hnone
  | @discarded h u fresh =>
    obtain rfl : u = v := hticket _ fresh
    have hstands : (s.view u).standing h = some .fresh := standing?_of_ticket fresh
    have hself := standing?_of_none (v := u) ((ticket?_forget s h h).trans (if_pos rfl))
    refine Eq.trans ?_ (VolumeView.drop_of_fresh hstands).symm
    exact VolumeView.ext ((StepEffect.discarded fresh).standing?_eq hself) rfl
  | @cancelled h u m waiting =>
    obtain rfl : u = v := hticket _ waiting
    have hstands : (s.view u).standing h = some .waiting := standing?_of_ticket waiting
    have hself :=
      standing?_of_none (v := u) ((ticket?_forget (s.leave h m) h h).trans (if_pos rfl))
    refine Eq.trans ?_ (VolumeView.drop_of_waiting hstands).symm
    exact VolumeView.ext ((StepEffect.cancelled waiting).standing?_eq hself)
      (line?_leave_self (hs.entered h _ m waiting rfl) h)
  | @released h u m held =>
    obtain rfl : u = v := hticket _ held
    have he : s.entry? u = some m := hs.entered h _ m held rfl
    have hstands : (s.view u).standing h = some .held := standing?_of_ticket held
    have hself := standing?_of_none (v := u)
      ((ticket?_forget ((s.leave h m).sweep u) h h).trans (if_pos rfl))
    have hline : ((s.leave h m).sweep u).line? u =
        ((s.line? u).map (·.filter (· ≠ h))).filter (· ≠ []) := by
      rw [line?_sweep_self (s := s.leave h m) he, line?_leave_self he]
    refine Eq.trans ?_ (VolumeView.drop_of_held hstands).symm
    exact VolumeView.ext ((StepEffect.released held).standing?_eq hself) hline

/-- **A step on a handle of another volume, or of none, is not seen.** -/
theorem Consistent.view_step_of_ne (hs : Consistent s) (heffect : StepEffect s a s')
    (hv : s.volumeOf a ≠ some v) : s'.view v = s.view v := by
  have hbefore : s.standing? v a.handle = none :=
    standing?_eq_none_iff.2 fun t ht htv =>
      hv ((LockTable.volumeOf_of_ticket ht).trans (congrArg some htv))
  have hafter : s'.standing? v a.handle = none :=
    standing?_eq_none_iff.2 fun t ht htv =>
      hv ((heffect.volumeOf_of_ticket ht).trans (congrArg some htv))
  refine VolumeView.ext (heffect.standing?_eq_self (hafter.trans hbefore.symm)) ?_
  have hne : ∀ u p, s.ticket? a.handle = some ⟨u, p⟩ → v ≠ u := fun u p ht huv =>
    hv ((LockTable.volumeOf_of_ticket ht).trans (congrArg some huv.symm))
  show s'.line? v = s.line? v
  cases heffect with
  | taken live => rfl
  | created new => rfl
  | kept asked behind => rfl
  | joined fresh => exact line?_join_of_ne hs _ (hne _ _ fresh)
  | acquired waiting front => rfl
  | missing none => rfl
  | discarded fresh => rfl
  | cancelled waiting =>
    exact line?_leave_of_ne hs (hs.entered _ _ _ waiting rfl) _ (hne _ _ waiting)
  | released held =>
    exact (line?_sweep_of_ne _ (hne _ _ held)).trans
      (line?_leave_of_ne hs (hs.entered _ _ _ held rfl) _ (hne _ _ held))

end Views

/-! ## 4. Runs without the other volumes -/

/-- A step is on a handle of another volume. -/
def elsewhere (s : LockTable) (v : String) (a : Step) : Bool :=
  (s.volumeOf a).any (· ≠ v)

/-- The steps of a run that are not on handles of other volumes. -/
def alone (v : String) : LockTable → List Step → List Step
  | _, [] => []
  | s, a :: steps =>
    if s.elsewhere v a then alone v (s.step a) steps else a :: alone v (s.step a) steps

theorem alone_append (v : String) (s : LockTable) (before after : List Step) :
    alone v s (before ++ after) = alone v s before ++ alone v (s.run before) after := by
  induction before generalizing s with
  | nil => rfl
  | cons a before ih =>
    rw [List.cons_append, alone, alone, run_cons, ih]
    split <;> rfl

/-- Every handle of a table wants the same volume. -/
def Only (s : LockTable) (v : String) : Prop :=
  ∀ h t, s.ticket? h = some t → t.volume = v

section Alone

variable {s s' : LockTable} {a : Step} {v : String}

theorem volume_eq_of_not_elsewhere (ha : s.elsewhere v a = false) {u : String}
    (hu : s.volumeOf a = some u) : u = v := by
  unfold elsewhere at ha
  rw [hu] at ha
  simpa using ha

/-- A step that is kept is about the same volume, or about none, in both runs. -/
theorem volumeOf_eq_of_view_eq (hview : s.view v = s'.view v) (honly : s'.Only v)
    (ha : s.elsewhere v a = false) : s'.volumeOf a = s.volumeOf a := by
  have hstanding : s.standing? v a.handle = s'.standing? v a.handle :=
    congrFun (congrArg VolumeView.standing hview) a.handle
  cases ht : s.ticket? a.handle with
  | none =>
    have ht' : s'.ticket? a.handle = none := by
      cases ht' : s'.ticket? a.handle with
      | none => rfl
      | some t =>
        rw [standing?_of_none ht] at hstanding
        exact absurd (honly _ t ht') (standing?_eq_none_iff.1 hstanding.symm t ht')
    rw [volumeOf_of_none ht, volumeOf_of_none ht']
  | some t =>
    have hvolume := volumeOf_of_ticket ht
    obtain ⟨u, p⟩ := t
    obtain rfl : u = v := volume_eq_of_not_elsewhere ha hvolume
    rw [standing?_of_ticket ht] at hstanding
    obtain ⟨p', ht', _⟩ := standing?_eq_some_iff.1 hstanding.symm
    rw [hvolume, volumeOf_of_ticket ht']

/-- A step that is kept makes no handle of another volume. -/
theorem Only.step (honly : s.Only v) (ha : s.elsewhere v a = false) : (s.step a).Only v := by
  intro h t ht
  by_cases hh : h = a.handle
  · rw [hh] at ht
    exact volume_eq_of_not_elsewhere ha ((step_effect s a).volumeOf_of_ticket ht)
  · rw [(step_effect s a).ticket?_of_ne hh] at ht
    exact honly h t ht

end Alone

/-- What is seen of a volume is what is seen in the run without the other volumes. -/
theorem view_run_alone (v : String) (steps : List Step) :
    (empty.run steps).view v = (empty.run (alone v empty steps)).view v ∧
      (empty.run (alone v empty steps)).Only v := by
  induction steps using List.reverseRecOn with
  | nil => exact ⟨rfl, fun h t ht => by cases ht⟩
  | append_singleton steps a ih =>
    obtain ⟨hview, honly⟩ := ih
    have hs : Consistent (empty.run steps) := consistent_run steps
    have hs' : Consistent (empty.run (alone v empty steps)) := consistent_run _
    have heffect := step_effect (empty.run steps) a
    have heffect' := step_effect (empty.run (alone v empty steps)) a
    rw [alone_append, run_concat]
    cases ha : (empty.run steps).elsewhere v a with
    | true =>
      have hdeleted : alone v (empty.run steps) [a] = [] := by rw [alone, if_pos ha]; rfl
      have hother : (empty.run steps).volumeOf a ≠ some v := by
        intro hv
        unfold elsewhere at ha
        rw [hv] at ha
        simp at ha
      rw [hdeleted, List.append_nil, hs.view_step_of_ne heffect hother]
      exact ⟨hview, honly⟩
    | false =>
      have hkept : alone v (empty.run steps) [a] = [a] := by rw [alone, ha]; rfl
      have hvolume := volumeOf_eq_of_view_eq hview honly ha
      have honly' : (empty.run (alone v empty steps)).elsewhere v a = false := by
        unfold elsewhere
        rw [hvolume]
        exact ha
      rw [hkept, run_concat]
      refine ⟨?_, honly.step honly'⟩
      by_cases hv : (empty.run steps).volumeOf a = some v
      · rw [hs.view_step heffect hv, hs'.view_step heffect' (hvolume.trans hv), hview]
      · rw [hs.view_step_of_ne heffect hv, hs'.view_step_of_ne heffect' (hvolume ▸ hv), hview]

theorem entered_iff_line? {s : LockTable} {v : String} : s.Entered v ↔ s.line? v ≠ none := by
  unfold line?
  rw [ne_eq, Option.map_eq_none_iff, ← ne_eq, Option.ne_none_iff_exists']
  exact Iff.rfl

/-- **Volumes do not get in each other's way.** Take any run and delete the steps on handles of all
    other volumes. Then at each step of the run the handles of the volume stand where they stand at
    that place of the run that is left, where there are no others, and the volume has an entry in
    both or in neither. -/
theorem undisturbed_run (v : String) (before after : List Step) :
    alone v empty before <+: alone v empty (before ++ after) ∧
      (empty.run (alone v empty before)).Only v ∧
      (∀ h, (empty.run before).standing? v h =
        (empty.run (alone v empty before)).standing? v h) ∧
      ((empty.run before).Entered v ↔ (empty.run (alone v empty before)).Entered v) := by
  obtain ⟨hview, honly⟩ := view_run_alone v before
  refine ⟨?_, honly, fun h => ?_, ?_⟩
  · rw [alone_append]
    exact List.prefix_append _ _
  · exact congrFun (congrArg VolumeView.standing hview) h
  · rw [entered_iff_line?, entered_iff_line?]
    exact iff_of_eq (congrArg (fun x => x.line ≠ none) hview)

/-- The name of a handle of another volume is in use, so the step that would make a handle under it
    is deleted with the other steps on that handle. -/
example : alone "v" empty
    [.create "a" "u", .poll "a", .create "a" "v", .create "b" "v", .poll "b", .drop "a"] =
      [.create "b" "v", .poll "b"] := by decide

end LockTable

end VolumeNode
