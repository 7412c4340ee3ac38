import VolumeNode.Proofs.Lock.Turn
import VolumeNode.Proofs.Traffic.Serial

/-!
# Calls on one volume come to an end

No calls on one volume can block each other, whichever of them arrived, were served or were given
up.

* A job that runs comes to its end by its own steps (`exists_finish_of_running`). While no job runs
  and some are queued, one of them can be served (`Serial.exists_turn`): the one in front of those
  who asked for the lock, or any if nobody asked yet.
* **`Serial.exists_ending`**: so from every state on some more steps bring all jobs to their ends
  that were not given up.
-/

namespace VolumeNode.Traffic

variable {naming : DeviceNaming} {start : MemoryWorld} {v : String} {s s' : Traffic}
  {h k : Handle} {r : Call}

/-- A job has still something to do. -/
def Pending (s : Traffic) (h : Handle) : Prop :=
  s.Queued h ∨ s.Running h

theorem not_pending_of_finished (hf : s.Finished h) : ¬ s.Pending h := by
  obtain ⟨r, outcome, hj⟩ := hf
  intro hp
  rcases hp with ⟨r', hr⟩ | hr
  · rw [hj] at hr
    cases hr
  · exact not_running_of_finished hj hr

theorem pending_congr (hj : s'.job? h = s.job? h) : s'.Pending h ↔ s.Pending h := by
  unfold Pending Queued Running
  rw [hj]

/-! ## 1. One job -/

/-- A job that runs comes to its end by its own steps. -/
theorem exists_finish_of_running (naming : DeviceNaming) {rest : Procedure (Except Refusal Unit)}
    (hj : s.job? h = some ⟨r, .running rest⟩) :
    ∃ more, (∀ e ∈ more, e = .advance h) ∧ (s.run naming more).Finished h ∧
      ∀ k, k ≠ h → (s.run naming more).job? k = s.job? k := by
  induction rest generalizing s with
  | done outcome =>
    have hstep : s.step naming (.advance h) =
        { s.setProgress h (.finished outcome) with locks := s.lockStep r (.drop h) } := by
      show s.advance naming h = _
      unfold advance
      rw [hj]
      rfl
    refine ⟨[.advance h], fun e he => List.mem_singleton.1 he, ⟨r, outcome, ?_⟩, fun k hk => ?_⟩
    · show (s.step naming (.advance h)).job? h = _
      rw [hstep]
      exact (job?_setProgress_of_job hj _ h).trans (if_pos rfl)
    · exact (effect_step naming s (.advance h)).job?_of_ne hk
  | act a next ih =>
    have hstep : s.step naming (.advance h) =
        { s.setProgress h (.running (next (a.perform MemoryTable.system s.world).1)) with
          world := (a.perform MemoryTable.system s.world).2 } := by
      show s.advance naming h = _
      unfold advance
      rw [hj]
      rfl
    have hnext : (s.step naming (.advance h)).job? h =
        some ⟨r, .running (next (a.perform MemoryTable.system s.world).1)⟩ := by
      rw [hstep]
      exact (job?_setProgress_of_job hj _ h).trans (if_pos rfl)
    obtain ⟨more, hmore, hfinished, hothers⟩ := ih _ hnext
    refine ⟨.advance h :: more, fun e he => ?_, hfinished, fun k hk => ?_⟩
    · rcases List.mem_cons.1 he with he | he
      · exact he
      · exact hmore e he
    · exact (hothers k hk).trans ((effect_step naming s (.advance h)).job?_of_ne hk)

/-! ## 2. Whose turn it is -/

/-- A job that gets its lock by asking is served. -/
theorem running_step_of_holds (naming : DeviceNaming) (hj : s.job? h = some ⟨r, .queued⟩)
    (hholds : (s.lockStep r (.poll h)).Holds h r.volume) :
    (s.step naming (.advance h)).Running h := by
  have hstep : s.step naming (.advance h) =
      serve naming { s with locks := s.lockStep r (.poll h) } h r := by
    show s.advance naming h = _
    unfold advance
    rw [hj]
    exact if_neg fun hwait => hwait.2 hholds
  rw [hstep]
  exact ⟨r, _, (job?_setProgress_of_job hj _ h).trans (if_pos rfl)⟩

namespace Serial

/-- Whoever holds the lock runs, and whoever has a ticket otherwise is queued. -/
theorem pending_of_ticket (hs : Serial naming start v s) {t : Ticket}
    (ht : s.locks.ticket? h = some t) :
    s.Running h ∨ s.Queued h ∧ ∃ p, t = ⟨v, p⟩ ∧ p.isHeld = false := by
  have hplaced := hs.placed h
  cases hj : s.job? h with
  | none =>
    rw [placed_of_none hj, ht] at hplaced
    cases hplaced
  | some j =>
    obtain ⟨r, progress⟩ := j
    cases progress with
    | queued =>
      obtain ⟨p, hp, hheld⟩ := (placed_of_queued hj).1 hplaced
      rw [ht] at hp
      exact .inr ⟨⟨r, hj⟩, p, Option.some.inj hp, hheld⟩
    | running rest => exact .inl ⟨r, rest, hj⟩
    | finished outcome =>
      rw [placed_of_over hj (.inr ⟨outcome, rfl⟩), ht] at hplaced
      cases hplaced
    | cancelled =>
      rw [placed_of_over hj (.inl rfl), ht] at hplaced
      cases hplaced

/-- While no job runs and some are queued, one of them can be served. -/
theorem exists_turn (hs : Serial naming start v s) (hv : v.isEmpty = false)
    (hfree : ∀ k, ¬ s.Running k) (hq : s.Queued h) :
    ∃ k, s.Queued k ∧ (s.step naming (.advance k)).Running k := by
  have hserve : ∀ k, s.Queued k → (s.locks.step (.poll k)).Holds k v →
      ∃ k, s.Queued k ∧ (s.step naming (.advance k)).Running k := by
    intro k hk hholds
    obtain ⟨r, hj⟩ := hk
    have hvolume : r.volume = v := hs.about k _ hj
    refine ⟨k, ⟨r, hj⟩, running_step_of_holds naming hj ?_⟩
    rw [lockStep_of_volume hvolume hv, hvolume]
    exact hholds
  by_cases hasked : ∃ k, s.locks.Asked k v
  · obtain ⟨k', hk'⟩ := hasked
    obtain ⟨k, hfirst, hk⟩ := hs.consistent.exists_first hk'
    obtain ⟨p, hp, hne⟩ := hk
    rcases hs.pending_of_ticket hp with hrunning | ⟨hqueued, p', hp', hheld⟩
    · exact absurd hrunning (hfree k)
    · have hwaits : s.locks.Waits k v := by
        cases hp'
        cases p with
        | fresh => exact absurd rfl hne
        | waiting m => exact ⟨m, hp⟩
        | held m => cases hheld
      exact hserve k hqueued ((hs.consistent.holds_step_poll_iff hwaits).2 hfirst)
  · have hnobody : ∀ k, ¬ s.locks.Asked k v := fun k hk => hasked ⟨k, hk⟩
    obtain ⟨r, hj⟩ := hq
    obtain ⟨p, hp, _⟩ := (placed_of_queued hj).1 (hs.placed h)
    have hfresh : p = .fresh := by
      by_contra hne
      exact hnobody h ⟨p, hp, hne⟩
    rw [hfresh] at hp
    exact hserve h ⟨r, hj⟩ ((hs.consistent.holds_join_iff hp).2 hnobody)

/-- While jobs are pending, one of them comes to its end by its own steps. -/
theorem exists_finish (hs : Serial naming start v s) (hv : v.isEmpty = false)
    (hp : s.Pending h) :
    ∃ k more, s.Pending k ∧ (∀ e ∈ more, e = .advance k) ∧ (s.run naming more).Finished k ∧
      ∀ j, j ≠ k → (s.run naming more).job? j = s.job? j := by
  by_cases hrunning : ∃ k, s.Running k
  · obtain ⟨k, r, rest, hj⟩ := hrunning
    obtain ⟨more, hmore, hfinished, hothers⟩ := exists_finish_of_running naming hj
    exact ⟨k, more, .inr ⟨r, rest, hj⟩, hmore, hfinished, hothers⟩
  · have hfree : ∀ k, ¬ s.Running k := fun k hk => hrunning ⟨k, hk⟩
    have hq : s.Queued h := hp.resolve_right (hfree h)
    obtain ⟨k, hk, r, rest, hj⟩ := hs.exists_turn hv hfree hq
    obtain ⟨more, hmore, hfinished, hothers⟩ := exists_finish_of_running naming hj
    refine ⟨k, .advance k :: more, .inl hk, fun e he => ?_, hfinished, fun j hjk => ?_⟩
    · rcases List.mem_cons.1 he with he | he
      · exact he
      · exact hmore e he
    · exact (hothers j hjk).trans ((effect_step naming s (.advance k)).job?_of_ne hjk)

/-! ## 3. All jobs -/

/-- The invariant holds after more events about the volume. -/
theorem run (hs : Serial naming start v s) (hv : v.isEmpty = false) {events : List Event}
    (harrive : ∀ h r, .arrive h r ∈ events → r.volume = v) :
    Serial naming start v (s.run naming events) := by
  induction events using List.reverseRecOn with
  | nil => exact hs
  | append_singleton events e ih =>
    rw [run_concat]
    refine (ih fun h r hr => harrive h r (List.mem_append_left _ hr)).effect
      (effect_step naming _ e) hv fun h r he => ?_
    exact harrive h r (List.mem_append_right _ (List.mem_singleton.2 he.symm))

/-- **From every state on all jobs can be brought to their ends**, but for those that were given
    up. -/
theorem exists_ending (hs : Serial naming start v s) (hv : v.isEmpty = false)
    (pending : List Handle) (hpending : ∀ h, s.Pending h → h ∈ pending) :
    ∃ more, (∀ e ∈ more, ∃ h, e = .advance h) ∧ ∀ h, ¬ (s.run naming more).Pending h := by
  generalize hn : pending.length = n
  induction n generalizing s pending with
  | zero =>
    refine ⟨[], nofun, fun h hp => ?_⟩
    have hmem := hpending h hp
    rw [List.length_eq_zero_iff.1 hn] at hmem
    cases hmem
  | succ n ih =>
    by_cases hsome : ∃ h, s.Pending h
    · obtain ⟨h, hp⟩ := hsome
      obtain ⟨k, first, hk, hfirst, hfinished, hothers⟩ := hs.exists_finish hv hp
      have hserial : Serial naming start v (s.run naming first) :=
        hs.run hv fun h r hr => nomatch hfirst _ hr
      -- the job that came to its end is pending no longer, and nothing else became pending
      have hfewer : ∀ j, (s.run naming first).Pending j → j ∈ pending.erase k := by
        intro j hj
        have hne : j ≠ k := fun heq => not_pending_of_finished hfinished (heq ▸ hj)
        exact (List.mem_erase_of_ne hne).2 (hpending j ((pending_congr (hothers j hne)).1 hj))
      have hlength : (pending.erase k).length = n := by
        rw [List.length_erase_of_mem (hpending k hk), hn]
        rfl
      obtain ⟨more, hmore, hover⟩ := ih hserial (pending.erase k) hfewer hlength
      refine ⟨first ++ more, fun e he => ?_, fun h => ?_⟩
      · rcases List.mem_append.1 he with he | he
        · exact ⟨k, hfirst e he⟩
        · exact hmore e he
      · rw [run_append]
        exact hover h
    · exact ⟨[], nofun, fun h hp => hsome ⟨h, hp⟩⟩

end Serial

end VolumeNode.Traffic
