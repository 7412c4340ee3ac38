import Mathlib.Data.List.Induction
import Mathlib.Data.List.Nodup
import VolumeNode.Proofs.Lock.View

/-!
# Handles, queues and entries agree

What holds of a lock table after any steps, in any order.

* `StepEffect` lists all that can come of a step (`step_effect`). A step changes no ticket but that
  of its own handle (`StepEffect.ticket?_of_ne`).
* `Waits` and `Holds` say where a handle stands that has `Asked` for the lock of a volume. Nobody
  comes to have asked but by being polled, or ceases but by being dropped (`StepEffect.asked_iff`).
* `Consistent` is the INVARIANT: the queue of a mutex holds exactly the handles that asked for it,
  each once and a holder in front; what they asked for is the mutex that their volume has an entry
  for; and no two volumes share a mutex.
* Each operation keeps it. Some make a mutex (`Consistent.mutexOf`) or clear an entry away
  (`Consistent.sweep`); the others are about one handle, whose ticket and queue they change together
  (`Moved`): joining the end of a queue (`Consistent.enqueue`), taking over at its front
  (`Consistent.acquire`), leaving it (`Consistent.depart`).
* So every step keeps it (`Consistent.step`), and it holds after every run (`consistent_run`).
* The queue of a mutex is the queue of one volume: `Consistent.mem_queue_iff`,
  `Consistent.queue_mutexOf_eq_nil_iff`.
-/

namespace VolumeNode.LockTable

/-! ## 1. What a step can do -/

/-- All that can come of a step. -/
inductive StepEffect (s : LockTable) : Step → LockTable → Prop
  /-- The name is in use. -/
  | taken {h : Handle} {v : String} {t : Ticket} (live : s.ticket? h = some t) :
      StepEffect s (.create h v) s
  | created {h : Handle} {v : String} (new : s.ticket? h = none) :
      StepEffect s (.create h v) { s with handles := s.handles ++ [(h, ⟨v, .fresh⟩)] }
  /-- There is no such handle, it has its lock already, or it is not its turn. -/
  | kept {h : Handle} (asked : ∀ v, s.ticket? h ≠ some ⟨v, .fresh⟩)
      (behind : ∀ v m, s.ticket? h = some ⟨v, .waiting m⟩ → (s.queue m).head? ≠ some h) :
      StepEffect s (.poll h) s
  /-- It asks for the lock. -/
  | joined {h : Handle} {v : String} (fresh : s.ticket? h = some ⟨v, .fresh⟩) :
      StepEffect s (.poll h) (s.join h v)
  /-- It is its turn. -/
  | acquired {h : Handle} {v : String} {m : Nat} (waiting : s.ticket? h = some ⟨v, .waiting m⟩)
      (front : (s.queue m).head? = some h) :
      StepEffect s (.poll h) (s.setPhase h (.held m))
  /-- There is no such handle. -/
  | missing {h : Handle} (none : s.ticket? h = none) : StepEffect s (.drop h) s
  | discarded {h : Handle} {v : String} (fresh : s.ticket? h = some ⟨v, .fresh⟩) :
      StepEffect s (.drop h) (s.forget h)
  /-- It gives up asking. -/
  | cancelled {h : Handle} {v : String} {m : Nat}
      (waiting : s.ticket? h = some ⟨v, .waiting m⟩) :
      StepEffect s (.drop h) ((s.leave h m).forget h)
  /-- It gives the lock back. -/
  | released {h : Handle} {v : String} {m : Nat} (held : s.ticket? h = some ⟨v, .held m⟩) :
      StepEffect s (.drop h) (((s.leave h m).sweep v).forget h)

theorem step_effect (s : LockTable) (a : Step) : StepEffect s a (s.step a) := by
  cases a with
  | create h v =>
    show StepEffect s _ (s.create h v)
    unfold create
    cases ht : s.ticket? h with
    | none => exact .created ht
    | some t => exact .taken ht
  | poll h =>
    show StepEffect s _ (s.poll h)
    unfold poll
    cases ht : s.ticket? h with
    | none =>
      refine .kept (fun v hv => ?_) fun v m hv => ?_
      · rw [ht] at hv
        cases hv
      · rw [ht] at hv
        cases hv
    | some t =>
      obtain ⟨v, p⟩ := t
      cases p with
      | fresh => exact .joined ht
      | waiting m =>
        by_cases hfront : (s.queue m).head? = some h
        · simp only [hfront, if_true]
          exact .acquired ht hfront
        · simp only [hfront, if_false]
          refine .kept (fun u hu => ?_) fun u n hu => ?_
          · rw [ht] at hu
            cases hu
          · rw [ht] at hu
            cases hu
            exact hfront
      | held m =>
        refine .kept (fun u hu => ?_) fun u n hu => ?_
        · rw [ht] at hu
          cases hu
        · rw [ht] at hu
          cases hu
  | drop h =>
    show StepEffect s _ (s.drop h)
    unfold drop
    cases ht : s.ticket? h with
    | none => exact .missing ht
    | some t =>
      obtain ⟨v, p⟩ := t
      cases p with
      | fresh => exact .discarded ht
      | waiting m => exact .cancelled ht
      | held m => exact .released ht

section Effects

variable {s s' : LockTable} {a : Step} {h k : Handle} {v : String}

/-- The handle that a step is about. -/
def Step.handle : Step → Handle
  | .create h _ => h
  | .poll h => h
  | .drop h => h

/-- **A step changes no ticket but that of its own handle.** -/
theorem StepEffect.ticket?_of_ne (heffect : StepEffect s a s') (hk : k ≠ a.handle) :
    s'.ticket? k = s.ticket? k := by
  cases heffect with
  | taken live => rfl
  | created new => exact (ticket?_create new _ k).trans (if_neg hk)
  | kept asked behind => rfl
  | joined fresh => exact (ticket?_join fresh k).trans (if_neg hk)
  | acquired waiting front => exact (ticket?_setPhase s _ _ k).trans (if_neg hk)
  | missing none => rfl
  | discarded fresh => exact (ticket?_forget s _ k).trans (if_neg hk)
  | cancelled waiting => exact (ticket?_forget _ _ k).trans (if_neg hk)
  | released held =>
    rw [ticket?_forget, ticket?_sweep]
    exact if_neg hk

/-- A handle has the lock of a volume. -/
def Holds (s : LockTable) (h : Handle) (v : String) : Prop :=
  ∃ m, s.ticket? h = some ⟨v, .held m⟩

/-- A handle has asked for the lock of a volume and does not have it yet. -/
def Waits (s : LockTable) (h : Handle) (v : String) : Prop :=
  ∃ m, s.ticket? h = some ⟨v, .waiting m⟩

/-- A handle has asked for the lock of a volume, and waits for it or has it. -/
def Asked (s : LockTable) (h : Handle) (v : String) : Prop :=
  ∃ p, s.ticket? h = some ⟨v, p⟩ ∧ p ≠ .fresh

theorem asked_iff_waits_or_holds : s.Asked h v ↔ s.Waits h v ∨ s.Holds h v := by
  constructor
  · rintro ⟨p, hp, hne⟩
    cases p with
    | fresh => exact absurd rfl hne
    | waiting m => exact .inl ⟨m, hp⟩
    | held m => exact .inr ⟨m, hp⟩
  · rintro (⟨m, hm⟩ | ⟨m, hm⟩)
    · exact ⟨_, hm, Phase.noConfusion⟩
    · exact ⟨_, hm, Phase.noConfusion⟩

theorem Waits.asked (hw : s.Waits h v) : s.Asked h v :=
  asked_iff_waits_or_holds.2 (.inl hw)

theorem Holds.asked (hh : s.Holds h v) : s.Asked h v :=
  asked_iff_waits_or_holds.2 (.inr hh)

/-- A handle that waits does not hold as well. -/
theorem Waits.ne_of_holds (hw : s.Waits h v) (hk : s.Holds k v) : h ≠ k := by
  rintro rfl
  obtain ⟨m, hm⟩ := hw
  obtain ⟨n, hn⟩ := hk
  rw [hm] at hn
  cases hn

theorem asked_iff_of_ticket? {u : String} {p : Phase} (ht : s.ticket? h = some ⟨u, p⟩) :
    s.Asked h v ↔ u = v ∧ p ≠ .fresh := by
  unfold Asked
  rw [ht]
  constructor
  · rintro ⟨q, hq, hne⟩
    cases hq
    exact ⟨rfl, hne⟩
  · rintro ⟨rfl, hne⟩
    exact ⟨p, rfl, hne⟩

theorem not_asked_of_none (ht : s.ticket? h = none) : ¬ s.Asked h v := by
  rintro ⟨p, hp, _⟩
  rw [ht] at hp
  cases hp

/-- **Who has asked after a step** either had asked before and was not dropped, or was polled for
    the first time. -/
theorem StepEffect.asked_iff (heffect : StepEffect s a s') :
    s'.Asked h v ↔
      s.Asked h v ∧ a ≠ .drop h ∨ a = .poll h ∧ s.ticket? h = some ⟨v, .fresh⟩ := by
  by_cases hk : h = a.handle
  · cases heffect with
    | taken live => simp
    | @created k u new =>
      obtain rfl : h = k := hk
      have hticket := (ticket?_create new ⟨u, .fresh⟩ h).trans (if_pos rfl)
      simp [asked_iff_of_ticket? hticket, not_asked_of_none new]
    | @kept k asked behind =>
      obtain rfl : h = k := hk
      simp [asked v]
    | @joined k u fresh =>
      obtain rfl : h = k := hk
      have hticket := (ticket?_join fresh h).trans (if_pos rfl)
      rw [asked_iff_of_ticket? hticket, asked_iff_of_ticket? fresh, fresh]
      split <;> simp
    | @acquired k u m waiting front =>
      obtain rfl : h = k := hk
      have hticket := (ticket?_setPhase s h (.held m) h).trans (if_pos rfl)
      rw [waiting] at hticket
      rw [asked_iff_of_ticket? hticket, asked_iff_of_ticket? waiting, waiting]
      simp
    | @missing k none =>
      obtain rfl : h = k := hk
      simp [not_asked_of_none none]
    | @discarded k u fresh =>
      obtain rfl : h = k := hk
      simp [not_asked_of_none ((ticket?_forget s h h).trans (if_pos rfl))]
    | @cancelled k u m waiting =>
      obtain rfl : h = k := hk
      simp [not_asked_of_none ((ticket?_forget (s.leave h m) h h).trans (if_pos rfl))]
    | @released k u m held =>
      obtain rfl : h = k := hk
      simp [not_asked_of_none ((ticket?_forget ((s.leave h m).sweep u) h h).trans (if_pos rfl))]
  · have hpoll : a ≠ .poll h := by
      rintro rfl
      exact hk rfl
    have hdrop : a ≠ .drop h := by
      rintro rfl
      exact hk rfl
    unfold Asked
    rw [heffect.ticket?_of_ne hk]
    simp [hpoll, hdrop]

/-- Polling a handle that did not ask yet makes it ask. -/
theorem step_poll_of_fresh (hfresh : s.ticket? h = some ⟨v, .fresh⟩) :
    s.step (.poll h) = s.join h v := by
  show s.poll h = _
  unfold poll
  rw [hfresh]

/-- A handle that is made is one of the volume, and fresh. -/
theorem ticket?_step_create (hnew : s.ticket? h = none) (v : String) :
    (s.step (.create h v)).ticket? h = some ⟨v, .fresh⟩ := by
  show (s.create h v).ticket? h = _
  unfold create
  rw [hnew]
  exact (ticket?_create hnew ⟨v, .fresh⟩ h).trans (if_pos rfl)

/-- A handle that is polled stays a handle of its volume. -/
theorem exists_ticket?_step_poll {p : Phase} (ht : s.ticket? h = some ⟨v, p⟩) :
    ∃ p', (s.step (.poll h)).ticket? h = some ⟨v, p'⟩ := by
  have heffect := step_effect s (.poll h)
  generalize s.step (.poll h) = s' at heffect
  cases heffect with
  | kept asked behind => exact ⟨p, ht⟩
  | joined fresh =>
    rw [ht] at fresh
    cases fresh
    exact ⟨_, (ticket?_join ht h).trans (if_pos rfl)⟩
  | @acquired _ u m waiting front =>
    have hheld : (s.setPhase h (.held m)).ticket? h = some ⟨v, .held m⟩ := by
      rw [ticket?_setPhase, if_pos rfl, ht]
      rfl
    exact ⟨_, hheld⟩

/-- A handle that is dropped is gone. -/
theorem ticket?_step_drop (s : LockTable) (h : Handle) : (s.step (.drop h)).ticket? h = none := by
  have heffect := step_effect s (.drop h)
  generalize s.step (.drop h) = s' at heffect
  cases heffect with
  | missing none => exact none
  | discarded fresh => exact (ticket?_forget s h h).trans (if_pos rfl)
  | cancelled waiting => exact (ticket?_forget _ h h).trans (if_pos rfl)
  | released held => exact (ticket?_forget _ h h).trans (if_pos rfl)

end Effects

/-! ## 2. The invariant -/

/-- Handles, queues and entries agree. -/
structure Consistent (s : LockTable) : Prop where
  /-- An entry names a mutex that was made. -/
  made : ∀ v m, s.entry? v = some m → m < s.queues.length
  /-- No two volumes share a mutex. -/
  own : ∀ v u m, s.entry? v = some m → s.entry? u = some m → v = u
  /-- The queue of a mutex holds those who asked for it. -/
  queued : ∀ h m, h ∈ s.queue m ↔ ∃ t, s.ticket? h = some t ∧ t.phase.mutex? = some m
  /-- What a handle asked for is the mutex of its volume. -/
  entered : ∀ h t m, s.ticket? h = some t → t.phase.mutex? = some m → s.entry? t.volume = some m
  nodup : ∀ m, (s.queue m).Nodup
  /-- A holder is in front of its queue. -/
  front : ∀ h v m, s.ticket? h = some ⟨v, .held m⟩ → (s.queue m).head? = some h

theorem consistent_empty : Consistent empty where
  made := fun v m h => by cases h
  own := fun v u m h => by cases h
  queued := fun h m => ⟨fun hm => absurd hm List.not_mem_nil, fun ⟨t, ht, _⟩ => by cases ht⟩
  entered := fun h t m ht => by cases ht
  nodup := fun m => List.nodup_nil
  front := fun h v m ht => by cases ht

/-- One handle gets another ticket or none, and one queue changes around it. The ticket tells where
    the handle is then. -/
structure Moved (s s' : LockTable) (h : Handle) (ticket : Option Ticket) (m : Nat)
    (queue : List Handle) : Prop where
  tickets : ∀ k, s'.ticket? k = if k = h then ticket else s.ticket? k
  queues : ∀ n, s'.queue n = if n = m then queue else s.queue n
  entries : s'.entries = s.entries
  length : s'.queues.length = s.queues.length
  /-- All others stay in the queue, and in front of it if they were. -/
  others : ∀ k, k ≠ h → (k ∈ queue ↔ k ∈ s.queue m)
  ahead : ∀ k, k ≠ h → (s.queue m).head? = some k → queue.head? = some k
  nodup : queue.Nodup
  /-- The handle is in this queue only, if its ticket says so. -/
  away : ∀ n, n ≠ m → h ∉ s.queue n
  place : h ∈ queue ↔ ∃ t, ticket = some t ∧ t.phase.mutex? = some m
  entered : ∀ t n, ticket = some t → t.phase.mutex? = some n → n = m ∧ s.entry? t.volume = some m
  held : ∀ v n, ticket = some ⟨v, .held n⟩ → queue.head? = some h

namespace Consistent

variable {s s' : LockTable} {h k : Handle} {t : Ticket} {v u : String} {m n : Nat}

/-- A handle in a queue has asked for a volume that has an entry for the mutex. -/
theorem exists_asked (hs : Consistent s) (hmem : h ∈ s.queue m) :
    ∃ v, s.entry? v = some m ∧ s.Asked h v := by
  obtain ⟨⟨v, p⟩, ht, hp⟩ := (hs.queued h m).1 hmem
  refine ⟨v, hs.entered h _ m ht hp, p, ht, fun hfresh => ?_⟩
  rw [hfresh] at hp
  cases hp

/-- A handle that has asked is in a queue, and its volume has an entry for the mutex. -/
theorem exists_queue (hs : Consistent s) (ha : s.Asked h v) :
    ∃ m, s.entry? v = some m ∧ h ∈ s.queue m := by
  obtain ⟨p, ht, hp⟩ := ha
  obtain ⟨m, hm⟩ := Option.ne_none_iff_exists'.1 (mt p.mutex?_eq_none_iff.1 hp)
  exact ⟨m, hs.entered h _ m ht hm, (hs.queued h m).2 ⟨_, ht, hm⟩⟩

/-- A handle asked for one mutex only. -/
theorem mutex_unique (hs : Consistent s) (ht : s.ticket? h = some t) (hp : t.phase.mutex? = some m)
    (hmem : h ∈ s.queue n) : n = m := by
  obtain ⟨t', ht', hp'⟩ := (hs.queued h n).1 hmem
  rw [ht] at ht'
  cases ht'
  rw [hp] at hp'
  exact (Option.some.inj hp').symm

/-- The queue of a volume's mutex holds those who asked for the volume. -/
theorem mem_queue_iff (hs : Consistent s) (he : s.entry? v = some m) :
    h ∈ s.queue m ↔ s.Asked h v := by
  constructor
  · intro hmem
    obtain ⟨u, hu, ha⟩ := hs.exists_asked hmem
    exact hs.own u v m hu he ▸ ha
  · intro ha
    obtain ⟨n, hn, hmem⟩ := hs.exists_queue ha
    rw [he] at hn
    cases hn
    exact hmem

/-- A handle that did not ask is in no queue. -/
theorem not_mem_queue_of_fresh (hs : Consistent s) (ht : s.ticket? h = some ⟨v, .fresh⟩) (m : Nat) :
    h ∉ s.queue m := by
  intro hmem
  obtain ⟨u, _, ha⟩ := hs.exists_asked hmem
  exact ((asked_iff_of_ticket? ht).1 ha).2 rfl

/-- The mutex that a volume has or gets is free exactly if nobody has asked for the volume. -/
theorem queue_mutexOf_eq_nil_iff (hs : Consistent s) (v : String) :
    s.queue (s.mutexOf v).1 = [] ↔ ∀ k, ¬ s.Asked k v := by
  cases he : s.entry? v with
  | some m =>
    rw [mutexOf_of_entry he, List.eq_nil_iff_forall_not_mem]
    exact forall_congr' fun k => not_congr (hs.mem_queue_iff he)
  | none =>
    have hnew : (s.mutexOf v).1 = s.queues.length := by
      unfold LockTable.mutexOf
      rw [he]
    have hnil : s.queue s.queues.length = [] := by simp [queue]
    rw [hnew]
    refine ⟨fun _ k hk => ?_, fun _ => hnil⟩
    obtain ⟨m, hm, _⟩ := hs.exists_queue hk
    rw [he] at hm
    cases hm

/-! ## 3. One operation -/

/-- Such a move keeps the invariant. -/
theorem moved (hs : Consistent s) {ticket : Option Ticket} {queue : List Handle}
    (hmoved : Moved s s' h ticket m queue) : Consistent s' := by
  have hentry : ∀ v, s'.entry? v = s.entry? v := fun v => by unfold entry?; rw [hmoved.entries]
  have hself : s'.ticket? h = ticket := by rw [hmoved.tickets, if_pos rfl]
  have hother : ∀ k, k ≠ h → s'.ticket? k = s.ticket? k := fun k hk => by
    rw [hmoved.tickets, if_neg hk]
  have hqueue : s'.queue m = queue := by rw [hmoved.queues, if_pos rfl]
  have hqueues : ∀ n, n ≠ m → s'.queue n = s.queue n := fun n hn => by
    rw [hmoved.queues, if_neg hn]
  refine ⟨?made, ?own, ?queued, ?entered, ?nodup, ?front⟩
  case made =>
    intro u n hu
    rw [hentry] at hu
    rw [hmoved.length]
    exact hs.made u n hu
  case own =>
    intro u w n hu hw
    rw [hentry] at hu hw
    exact hs.own u w n hu hw
  case queued =>
    intro k n
    by_cases hk : k = h
    · subst hk
      rw [hself]
      by_cases hn : n = m
      · rw [hn, hqueue]
        exact hmoved.place
      · rw [hqueues n hn]
        refine ⟨fun hmem => absurd hmem (hmoved.away n hn), fun ⟨t, ht, hp⟩ => ?_⟩
        exact absurd (hmoved.entered t n ht hp).1 hn
    · rw [hother k hk, ← hs.queued]
      by_cases hn : n = m
      · rw [hn, hqueue]
        exact hmoved.others k hk
      · rw [hqueues n hn]
  case entered =>
    intro k t n ht hp
    rw [hentry]
    by_cases hk : k = h
    · rw [hk, hself] at ht
      obtain ⟨rfl, he⟩ := hmoved.entered t n ht hp
      exact he
    · rw [hother k hk] at ht
      exact hs.entered k t n ht hp
  case nodup =>
    intro n
    by_cases hn : n = m
    · rw [hn, hqueue]
      exact hmoved.nodup
    · rw [hqueues n hn]
      exact hs.nodup n
  case front =>
    intro k u n ht
    by_cases hk : k = h
    · rw [hk, hself] at ht
      obtain ⟨rfl, _⟩ := hmoved.entered _ n ht rfl
      rw [hk, hqueue]
      exact hmoved.held u n ht
    · rw [hother k hk] at ht
      have hfront := hs.front k u n ht
      by_cases hn : n = m
      · subst hn
        rw [hqueue]
        exact hmoved.ahead k hk hfront
      · rw [hqueues n hn]
        exact hfront

/-- A handle that is in no queue may come and go. -/
theorem unqueued (hs : Consistent s) (hnot : ∀ n, h ∉ s.queue n) {ticket : Option Ticket}
    (htickets : ∀ k, s'.ticket? k = if k = h then ticket else s.ticket? k)
    (hmutex : ∀ t, ticket = some t → t.phase.mutex? = none) (hqueues : s'.queues = s.queues)
    (hentries : s'.entries = s.entries) : Consistent s' := by
  have hnone : ∀ t n, ticket = some t → t.phase.mutex? ≠ some n := by
    intro t n ht
    rw [hmutex t ht]
    exact nofun
  have hmoved : Moved s s' h ticket 0 (s.queue 0) :=
    { tickets := htickets
      queues := fun n => by
        unfold queue
        rw [hqueues]
        split
        · rename_i hn
          rw [hn]
        · rfl
      entries := hentries
      length := congrArg List.length hqueues
      others := fun _ _ => Iff.rfl
      ahead := fun _ _ => id
      nodup := hs.nodup 0
      away := fun n _ => hnot n
      place := ⟨fun hmem => absurd hmem (hnot 0), fun ⟨t, ht, hp⟩ => absurd hp (hnone t 0 ht)⟩
      entered := fun t n ht hp => absurd hp (hnone t n ht)
      held := fun v n ht => absurd rfl (hnone _ n ht) }
  exact hs.moved hmoved

theorem create (hs : Consistent s) (hnew : s.ticket? h = none) (v : String) :
    Consistent { s with handles := s.handles ++ [(h, ⟨v, .fresh⟩)] } := by
  refine hs.unqueued (fun n hmem => ?_) (ticket?_create hnew _) (fun t ht => ?_) rfl rfl
  · obtain ⟨u, _, ha⟩ := hs.exists_asked hmem
    exact not_asked_of_none hnew ha
  · cases ht
    rfl

theorem discard (hs : Consistent s) (hfresh : s.ticket? h = some ⟨v, .fresh⟩) :
    Consistent (s.forget h) :=
  hs.unqueued (hs.not_mem_queue_of_fresh hfresh) (ticket?_forget s h) nofun rfl rfl

/-- A volume gets a mutex that nobody has. -/
theorem mutexOf (hs : Consistent s) (v : String) : Consistent (s.mutexOf v).2 := by
  cases he : s.entry? v with
  | some m =>
    rw [mutexOf_of_entry he]
    exact hs
  | none =>
    have hfst : (s.mutexOf v).1 = s.queues.length := by unfold LockTable.mutexOf; rw [he]
    have hlen : (s.mutexOf v).2.queues.length = s.queues.length + 1 := by
      unfold LockTable.mutexOf
      rw [he]
      exact List.length_append
    have hentry : ∀ u n, entry? (s.mutexOf v).2 u = some n →
        u = v ∧ n = s.queues.length ∨ s.entry? u = some n := by
      intro u n hu
      rw [entry?_mutexOf] at hu
      by_cases huv : u = v
      · rw [if_pos huv, hfst] at hu
        cases hu
        exact .inl ⟨huv, rfl⟩
      · rw [if_neg huv] at hu
        exact .inr hu
    refine ⟨?made, ?own, ?queued, ?entered, ?nodup, ?front⟩
    case made =>
      intro u n hu
      rw [hlen]
      rcases hentry u n hu with ⟨_, rfl⟩ | hu
      · exact Nat.lt_succ_self _
      · exact Nat.lt_succ_of_lt (hs.made u n hu)
    case own =>
      intro u w n hu hw
      rcases hentry u n hu with ⟨huv, hn⟩ | hu'
      · rcases hentry w n hw with ⟨hwv, _⟩ | hw'
        · rw [huv, hwv]
        · exact absurd (hs.made w n hw') (by omega)
      · rcases hentry w n hw with ⟨_, hn⟩ | hw'
        · exact absurd (hs.made u n hu') (by omega)
        · exact hs.own u w n hu' hw'
    case queued =>
      intro h n
      rw [queue_mutexOf, ticket?_mutexOf]
      exact hs.queued h n
    case entered =>
      intro h t n ht hp
      rw [ticket?_mutexOf] at ht
      have ht := hs.entered h t n ht hp
      rw [entry?_mutexOf, if_neg, ht]
      rintro hv
      rw [hv, he] at ht
      cases ht
    case nodup =>
      intro n
      rw [queue_mutexOf]
      exact hs.nodup n
    case front =>
      intro h u n ht
      rw [ticket?_mutexOf] at ht
      rw [queue_mutexOf]
      exact hs.front h u n ht

/-- A handle joins the end of the queue of its volume. It holds the mutex at once only where nobody
    is before it. -/
theorem enqueue (hs : Consistent s) (he : s.entry? v = some m)
    (hfresh : s.ticket? h = some ⟨v, .fresh⟩) {p : Phase}
    (hp : p = .waiting m ∨ p = .held m ∧ s.queue m = []) :
    Consistent ((s.setQueue m (s.queue m ++ [h])).setPhase h p) := by
  have hnot : ∀ n, h ∉ s.queue n := hs.not_mem_queue_of_fresh hfresh
  have hmutex : p.mutex? = some m := by rcases hp with rfl | ⟨rfl, _⟩ <;> rfl
  have hmoved : Moved s ((s.setQueue m (s.queue m ++ [h])).setPhase h p) h (some ⟨v, p⟩) m
      (s.queue m ++ [h]) := by
    refine ⟨?tickets, queue_setQueue s (hs.made v m he) _, rfl, List.length_set, ?others, ?ahead,
      ?nodup, fun n _ => hnot n, ?place, ?entered, ?held⟩
    case tickets =>
      intro k
      rw [ticket?_setPhase, ticket?_setQueue, ticket?_setQueue, hfresh]
      rfl
    case others =>
      intro k hk
      simp [hk]
    case ahead =>
      intro k _ hfront
      rw [List.head?_append, hfront]
      rfl
    case nodup =>
      rw [List.nodup_append]
      refine ⟨hs.nodup m, List.nodup_singleton h, fun a ha b hb hab => ?_⟩
      rw [List.mem_singleton.1 hb] at hab
      exact hnot m (hab ▸ ha)
    case place =>
      exact ⟨fun _ => ⟨_, rfl, hmutex⟩,
        fun _ => List.mem_append_right _ (List.mem_singleton_self _)⟩
    case entered =>
      intro t n ht hpn
      cases ht
      rw [hmutex] at hpn
      exact ⟨(Option.some.inj hpn).symm, he⟩
    case held =>
      intro u n ht
      cases ht
      rcases hp with hp | ⟨_, hnil⟩
      · cases hp
      · rw [hnil]
        rfl
  exact hs.moved hmoved

/-- The one in front takes its mutex over. -/
theorem acquire (hs : Consistent s) (hwaiting : s.ticket? h = some ⟨v, .waiting m⟩)
    (hfront : (s.queue m).head? = some h) : Consistent (s.setPhase h (.held m)) := by
  have hmoved : Moved s (s.setPhase h (.held m)) h (some ⟨v, .held m⟩) m (s.queue m) := by
    refine ⟨?tickets, ?queues, rfl, rfl, fun _ _ => Iff.rfl, fun _ _ => id, hs.nodup m, ?away,
      ?place, ?entered, fun _ _ _ => hfront⟩
    case tickets =>
      intro k
      rw [ticket?_setPhase, hwaiting]
      rfl
    case queues =>
      intro n
      by_cases hn : n = m
      · rw [if_pos hn, hn]
        rfl
      · rw [if_neg hn]
        rfl
    case away => exact fun n hn hmem => hn (hs.mutex_unique hwaiting rfl hmem)
    case place => exact ⟨fun _ => ⟨_, rfl, rfl⟩, fun _ => List.mem_of_head? hfront⟩
    case entered =>
      intro t n ht hp
      cases ht
      exact ⟨(Option.some.inj hp).symm, hs.entered h ⟨v, .waiting m⟩ m hwaiting rfl⟩
  exact hs.moved hmoved

/-- A handle leaves its queue and is gone. -/
theorem depart (hs : Consistent s) (ht : s.ticket? h = some t) (hp : t.phase.mutex? = some m) :
    Consistent ((s.leave h m).forget h) := by
  have hmoved : Moved s ((s.leave h m).forget h) h none m ((s.queue m).filter (· ≠ h)) := by
    refine ⟨ticket?_forget (s.leave h m) h, queue_leave s h m, rfl, List.length_set, ?others,
      ?ahead, (hs.nodup m).filter _, ?away, ?place, nofun, nofun⟩
    case others =>
      intro k hk
      simp [hk]
    case ahead =>
      intro k hk hfront
      obtain ⟨rest, hrest⟩ := List.head?_eq_some_iff.1 hfront
      rw [hrest, List.filter_cons_of_pos (by simpa using hk)]
      rfl
    case away => exact fun n hn hmem => hn (hs.mutex_unique ht hp hmem)
    case place =>
      constructor
      · intro hmem
        simp at hmem
      · rintro ⟨_, hnone, _⟩
        cases hnone
  exact hs.moved hmoved

/-- An entry that is cleared away is one that nobody asked for. -/
theorem sweep (hs : Consistent s) (v : String) : Consistent (s.sweep v) := by
  have hentry : ∀ u n, entry? (s.sweep v) u = some n → s.entry? u = some n := by
    intro u n hu
    rcases entry?_sweep s v u with h | ⟨_, h, _⟩
    · rw [← h]
      exact hu
    · rw [h] at hu
      cases hu
  have hqueues : (s.sweep v).queues = s.queues := by
    unfold LockTable.sweep
    split
    · rfl
    · split <;> rfl
  refine ⟨?made, ?own, ?queued, ?entered, ?nodup, ?front⟩
  case made =>
    intro u n hu
    rw [hqueues]
    exact hs.made u n (hentry u n hu)
  case own =>
    intro u w n hu hw
    exact hs.own u w n (hentry u n hu) (hentry w n hw)
  case queued =>
    intro h n
    rw [queue_sweep, ticket?_sweep]
    exact hs.queued h n
  case entered =>
    intro h t n ht hp
    rw [ticket?_sweep] at ht
    have hu := hs.entered h t n ht hp
    rcases entry?_sweep s v t.volume with hsame | ⟨hv, _, hnil⟩
    · rw [hsame]
      exact hu
    · rw [hv] at hu
      have hmem : h ∈ s.queue n := (hs.queued h n).2 ⟨t, ht, hp⟩
      rw [hnil n hu] at hmem
      exact absurd hmem List.not_mem_nil
  case nodup =>
    intro n
    rw [queue_sweep]
    exact hs.nodup n
  case front =>
    intro h u n ht
    rw [ticket?_sweep] at ht
    rw [queue_sweep]
    exact hs.front h u n ht

/-! ## 4. Every run -/

theorem join (hs : Consistent s) (hfresh : s.ticket? h = some ⟨v, .fresh⟩) :
    Consistent (s.join h v) := by
  have he : entry? (s.mutexOf v).2 v = some (s.mutexOf v).1 := by rw [entry?_mutexOf, if_pos rfl]
  have hfresh' : (s.mutexOf v).2.ticket? h = some ⟨v, .fresh⟩ := by
    rw [ticket?_mutexOf]
    exact hfresh
  rw [join_eq, ← queue_mutexOf s v]
  refine (hs.mutexOf v).enqueue he hfresh' ?_
  by_cases hnil : (s.mutexOf v).2.queue (s.mutexOf v).1 = []
  · exact .inr ⟨if_pos hnil, hnil⟩
  · exact .inl (if_neg hnil)

/-- Who asks for a volume joins the end of one queue; the others stay as they are. -/
theorem queue_join (hs : Consistent s) (h : Handle) (v : String) (n : Nat) :
    (s.join h v).queue n = if n = (s.mutexOf v).1 then s.queue n ++ [h] else s.queue n := by
  have he : entry? (s.mutexOf v).2 v = some (s.mutexOf v).1 := by rw [entry?_mutexOf, if_pos rfl]
  rw [join_eq, queue_setPhase, queue_setQueue _ ((hs.mutexOf v).made v _ he), queue_mutexOf]
  by_cases hn : n = (s.mutexOf v).1
  · rw [if_pos hn, if_pos hn, hn]
  · rw [if_neg hn, if_neg hn]

/-- A step takes handles out of a queue, or puts the one who asks at its end. -/
theorem queue_effect (hs : Consistent s) {a : Step} (heffect : StepEffect s a s') (n : Nat) :
    (s'.queue n).Sublist (s.queue n) ∨
      ∃ h v, a = .poll h ∧ s.ticket? h = some ⟨v, .fresh⟩ ∧ s'.queue n = s.queue n ++ [h] := by
  have hsame : (s.queue n).Sublist (s.queue n) := List.Sublist.refl _
  have hleave : ∀ h m, ((s.leave h m).queue n).Sublist (s.queue n) := by
    intro h m
    rw [queue_leave]
    by_cases hn : n = m
    · rw [if_pos hn, hn]
      exact List.filter_sublist
    · rw [if_neg hn]
  cases heffect with
  | taken live => exact .inl hsame
  | created new => exact .inl hsame
  | kept asked behind => exact .inl hsame
  | @joined h v fresh =>
    rw [hs.queue_join]
    by_cases hn : n = (s.mutexOf v).1
    · rw [if_pos hn]
      exact .inr ⟨h, v, rfl, fresh, rfl⟩
    · rw [if_neg hn]
      exact .inl hsame
  | acquired waiting front => exact .inl hsame
  | missing none => exact .inl hsame
  | discarded fresh => exact .inl hsame
  | cancelled waiting => exact .inl (hleave _ _)
  | released held =>
    rw [queue_forget, queue_sweep]
    exact .inl (hleave _ _)

theorem effect (hs : Consistent s) {a : Step} (heffect : StepEffect s a s') : Consistent s' := by
  cases heffect with
  | taken live => exact hs
  | created new => exact hs.create new _
  | kept asked behind => exact hs
  | joined fresh => exact hs.join fresh
  | acquired waiting front => exact hs.acquire waiting front
  | missing none => exact hs
  | discarded fresh => exact hs.discard fresh
  | cancelled waiting => exact hs.depart waiting rfl
  | released held =>
    rw [forget_sweep]
    exact (hs.depart held rfl).sweep _

theorem step (hs : Consistent s) (a : Step) : Consistent (s.step a) :=
  hs.effect (step_effect s a)

end Consistent

/-- **Whatever steps were taken**, handles, queues and entries agree. -/
theorem consistent_run (steps : List Step) : Consistent (empty.run steps) := by
  induction steps using List.reverseRecOn with
  | nil => exact consistent_empty
  | append_singleton steps a ih =>
    rw [run_concat]
    exact ih.step a

end VolumeNode.LockTable
