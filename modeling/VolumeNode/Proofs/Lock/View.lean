import VolumeNode.Association
import VolumeNode.LockTable

/-!
# What is seen of the locks

Of a lock table one sees the ticket of a handle, the queue of a mutex and the entry of a volume. One
equation for each operation and each of the three says what is seen afterwards, so the proofs about
locks need not look at how a table is kept.

* `Phase.mutex?` of a ticket tells the mutex that its handle asked for; only a fresh handle has none
  (`mutex?_eq_none_iff`).
* Making a mutex changes no queue, since a mutex that was never made has nobody in its queue
  (`queue_mutexOf`).
-/

namespace VolumeNode

@[simp] theorem Phase.mutex?_fresh : Phase.fresh.mutex? = none := rfl

@[simp] theorem Phase.mutex?_waiting (m : Nat) : (Phase.waiting m).mutex? = some m := rfl

@[simp] theorem Phase.mutex?_held (m : Nat) : (Phase.held m).mutex? = some m := rfl

theorem Phase.mutex?_eq_none_iff (p : Phase) : p.mutex? = none ↔ p = .fresh := by
  cases p <;> simp [mutex?]

namespace LockTable

/-! ## 1. Tickets -/

theorem ticket?_create {s : LockTable} {h : Handle} (hnew : s.ticket? h = none) (t : Ticket)
    (k : Handle) :
    ({ s with handles := s.handles ++ [(h, t)] } : LockTable).ticket? k =
      if k = h then some t else s.ticket? k :=
  Association.lookup_concat hnew t k

theorem ticket?_setPhase (s : LockTable) (h : Handle) (phase : Phase) (k : Handle) :
    (s.setPhase h phase).ticket? k =
      if k = h then (s.ticket? h).map ({ · with phase }) else s.ticket? k :=
  Association.lookup_map_at s.handles h k ({ · with phase })

theorem ticket?_forget (s : LockTable) (h k : Handle) :
    (s.forget h).ticket? k = if k = h then none else s.ticket? k :=
  Association.lookup_filter_ne s.handles h k

@[simp] theorem ticket?_setQueue (s : LockTable) (m : Nat) (q : List Handle) (k : Handle) :
    (s.setQueue m q).ticket? k = s.ticket? k := rfl

@[simp] theorem ticket?_leave (s : LockTable) (h : Handle) (m : Nat) (k : Handle) :
    (s.leave h m).ticket? k = s.ticket? k := rfl

@[simp] theorem ticket?_mutexOf (s : LockTable) (volume : String) (k : Handle) :
    (s.mutexOf volume).2.ticket? k = s.ticket? k := by
  unfold mutexOf
  cases s.entry? volume <;> rfl

@[simp] theorem ticket?_sweep (s : LockTable) (volume : String) (k : Handle) :
    (s.sweep volume).ticket? k = s.ticket? k := by
  unfold sweep
  split
  · rfl
  · split <;> rfl

/-! ## 2. Queues -/

theorem queue_setQueue (s : LockTable) {m : Nat} (hm : m < s.queues.length) (q : List Handle)
    (n : Nat) : (s.setQueue m q).queue n = if n = m then q else s.queue n := by
  unfold setQueue queue
  rw [List.getElem?_set]
  by_cases hn : n = m
  · simp [hn, hm]
  · simp [hn, Ne.symm hn]

/-- A handle leaves one queue; the others stay as they are. -/
theorem queue_leave (s : LockTable) (h : Handle) (m n : Nat) :
    (s.leave h m).queue n = if n = m then (s.queue m).filter (· ≠ h) else s.queue n := by
  unfold leave
  by_cases hm : m < s.queues.length
  · exact queue_setQueue s hm _ n
  · -- there is no such mutex, so nobody is in its queue
    have hlen : s.queues.length ≤ m := Nat.le_of_not_lt hm
    have hnone : s.queue m = [] := by simp [queue, List.getElem?_eq_none hlen]
    have hsame : (s.setQueue m ((s.queue m).filter (· ≠ h))).queue n = s.queue n := by
      unfold setQueue
      rw [List.set_eq_of_length_le hlen]
    rw [hsame]
    by_cases hn : n = m
    · simp [hn, hnone]
    · rw [if_neg hn]

@[simp] theorem queue_setPhase (s : LockTable) (h : Handle) (phase : Phase) (n : Nat) :
    (s.setPhase h phase).queue n = s.queue n := rfl

@[simp] theorem queue_forget (s : LockTable) (h : Handle) (n : Nat) :
    (s.forget h).queue n = s.queue n := rfl

@[simp] theorem queue_sweep (s : LockTable) (volume : String) (n : Nat) :
    (s.sweep volume).queue n = s.queue n := by
  unfold sweep
  split
  · rfl
  · split <;> rfl

@[simp] theorem queue_mutexOf (s : LockTable) (volume : String) (n : Nat) :
    (s.mutexOf volume).2.queue n = s.queue n := by
  unfold mutexOf
  cases s.entry? volume with
  | some m => rfl
  | none =>
    show (s.queues ++ [[]])[n]?.getD [] = s.queues[n]?.getD []
    rw [List.getElem?_append]
    by_cases hn : n < s.queues.length
    · rw [if_pos hn]
    · rw [if_neg hn, List.getElem?_eq_none (Nat.le_of_not_lt hn)]
      cases n - s.queues.length <;> rfl

/-! ## 3. Entries -/

/-- A volume has an entry. -/
def Entered (s : LockTable) (v : String) : Prop :=
  ∃ m, s.entry? v = some m

@[simp] theorem entry?_setQueue (s : LockTable) (m : Nat) (q : List Handle) (volume : String) :
    entry? (s.setQueue m q) volume = s.entry? volume := rfl

@[simp] theorem entry?_setPhase (s : LockTable) (h : Handle) (phase : Phase) (volume : String) :
    entry? (s.setPhase h phase) volume = s.entry? volume := rfl

@[simp] theorem entry?_leave (s : LockTable) (h : Handle) (m : Nat) (volume : String) :
    entry? (s.leave h m) volume = s.entry? volume := rfl

@[simp] theorem entry?_forget (s : LockTable) (h : Handle) (volume : String) :
    entry? (s.forget h) volume = s.entry? volume := rfl

theorem entry?_mutexOf (s : LockTable) (volume v : String) :
    entry? (s.mutexOf volume).2 v =
      if v = volume then some (s.mutexOf volume).1 else s.entry? v := by
  unfold mutexOf
  cases he : s.entry? volume with
  | some m =>
    by_cases hv : v = volume
    · rw [hv, if_pos rfl, he]
    · rw [if_neg hv]
  | none => exact Association.lookup_concat he _ v

/-- A sweep takes an entry out only where nobody is in the queue. -/
theorem entry?_sweep (s : LockTable) (volume v : String) :
    entry? (s.sweep volume) v = s.entry? v ∨
      v = volume ∧ entry? (s.sweep volume) v = none ∧
        ∀ m, s.entry? volume = some m → s.queue m = [] := by
  unfold sweep
  cases he : s.entry? volume with
  | none => exact .inl rfl
  | some m =>
    by_cases hq : s.queue m = []
    · have hswept : entry? { s with entries := s.entries.filter (·.1 ≠ volume) } v =
          if v = volume then none else s.entry? v :=
        Association.lookup_filter_ne s.entries volume v
      by_cases hv : v = volume
      · refine .inr ⟨hv, ?_, fun n hn => by cases hn; exact hq⟩
        simpa [hq, hv] using hswept
      · refine .inl ?_
        simpa [hq, hv] using hswept
    · refine .inl ?_
      simp [hq]

/-- A sweep of one volume leaves the entries of the others alone. -/
theorem entry?_sweep_of_ne (s : LockTable) {volume v : String} (hv : v ≠ volume) :
    entry? (s.sweep volume) v = s.entry? v := by
  rcases entry?_sweep s volume v with hsame | ⟨heq, _, _⟩
  · exact hsame
  · exact absurd heq hv

/-- A sweep keeps the entry of its volume where somebody is in the queue, and only there. -/
theorem entry?_sweep_self {s : LockTable} {v : String} {m : Nat} (he : s.entry? v = some m) :
    entry? (s.sweep v) v = if s.queue m = [] then none else some m := by
  unfold sweep
  rw [he]
  dsimp only
  by_cases hq : s.queue m = []
  · have hswept := Association.lookup_filter_ne s.entries v v
    rw [if_pos rfl] at hswept
    rw [if_pos hq, if_pos (List.isEmpty_iff.2 hq)]
    exact hswept
  · rw [if_neg hq, if_neg (mt List.isEmpty_iff.1 hq)]
    exact he

/-- A handle may be forgotten before the entry is cleared away. -/
theorem forget_sweep (s : LockTable) (h : Handle) (volume : String) :
    (s.sweep volume).forget h = (s.forget h).sweep volume := by
  unfold sweep
  rw [entry?_forget]
  cases s.entry? volume with
  | none => rfl
  | some m =>
    dsimp only
    rw [queue_forget]
    split <;> rfl

/-! ## 4. Joining a queue -/

/-- The mutex that a volume has or gets is joined at the end, and held at once only if nobody was
    there. -/
theorem join_eq (s : LockTable) (h : Handle) (volume : String) :
    s.join h volume =
      ((s.mutexOf volume).2.setQueue (s.mutexOf volume).1
        (s.queue (s.mutexOf volume).1 ++ [h])).setPhase h
          (if s.queue (s.mutexOf volume).1 = [] then .held (s.mutexOf volume).1
            else .waiting (s.mutexOf volume).1) := by
  show ((s.mutexOf volume).2.setQueue (s.mutexOf volume).1
    ((s.mutexOf volume).2.queue (s.mutexOf volume).1 ++ [h])).setPhase h
      (if ((s.mutexOf volume).2.queue (s.mutexOf volume).1).isEmpty then
        .held (s.mutexOf volume).1 else .waiting (s.mutexOf volume).1) = _
  simp only [queue_mutexOf, List.isEmpty_iff]

theorem ticket?_join {s : LockTable} {h : Handle} {v : String}
    (hfresh : s.ticket? h = some ⟨v, .fresh⟩) (k : Handle) :
    (s.join h v).ticket? k =
      if k = h then
        some ⟨v, if s.queue (s.mutexOf v).1 = [] then .held (s.mutexOf v).1
          else .waiting (s.mutexOf v).1⟩
      else s.ticket? k := by
  rw [join_eq, ticket?_setPhase, ticket?_setQueue, ticket?_setQueue, ticket?_mutexOf,
    ticket?_mutexOf, hfresh]
  rfl

theorem mutexOf_of_entry {s : LockTable} {v : String} {m : Nat} (he : s.entry? v = some m) :
    s.mutexOf v = (m, s) := by
  unfold mutexOf
  rw [he]

end LockTable

end VolumeNode
