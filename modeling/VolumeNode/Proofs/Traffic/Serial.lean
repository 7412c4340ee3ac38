import VolumeNode.Proofs.Lock.Exclusion
import VolumeNode.Proofs.Traffic.Step

/-!
# Calls on one volume take turns

The actions of calls that arrive at the same time come in any order, but calls on one volume keep
out of each other's way.

* `Serial` is the INVARIANT: the handle of a job stands where the job does (`Placed`), so whoever
  runs holds the lock of the volume, and one job runs at most (`Serial.running_unique`). Those that
  were served are the ones that run or are finished. `Course` says how the world came about: the
  finished calls, carried out one after another, lead to the world as it is, or to the one in which
  the running job began.
* Every event keeps it (`Serial.effect`): it is about a job that is not under way
  (`Course.of_not_begun`), or a job is served, takes an action or gives its lock back
  (`Course.served`, `Course.acted`, `Course.ended`).
-/

namespace VolumeNode.Traffic

variable {naming : DeviceNaming} {start : MemoryWorld} {v : String} {s s' : Traffic} {e : Event}
  {h k : Handle} {r : Call}

/-! ## 1. Jobs that were served -/

/-- A job has had its lock. -/
def Begun (s : Traffic) (h : Handle) : Prop :=
  s.Running h ∨ s.Finished h

theorem not_begun_of_none (hj : s.job? h = none) : ¬ s.Begun h := by
  unfold Begun Running Finished
  simp [hj]

/-- A job that is queued or was given up has not begun. -/
theorem not_begun_of_job {progress : Progress} (hj : s.job? h = some ⟨r, progress⟩)
    (hrunning : ∀ rest, progress ≠ .running rest)
    (hfinished : ∀ outcome, progress ≠ .finished outcome) : ¬ s.Begun h := by
  intro hbegun
  rcases hbegun with ⟨r', rest, hr⟩ | ⟨r', outcome, hr⟩
  · rw [hj] at hr
    exact hrunning rest (congrArg Job.progress (Option.some.inj hr))
  · rw [hj] at hr
    exact hfinished outcome (congrArg Job.progress (Option.some.inj hr))

theorem not_begun_of_queued (hj : s.job? h = some ⟨r, .queued⟩) : ¬ s.Begun h :=
  not_begun_of_job hj nofun nofun

theorem not_running_of_finished {outcome : Except Refusal Unit}
    (hj : s.job? h = some ⟨r, .finished outcome⟩) : ¬ s.Running h := by
  intro ⟨r', rest, hr⟩
  rw [hj] at hr
  cases hr

theorem not_finished_of_running (hr : s.Running h) : ¬ s.Finished h := by
  intro ⟨r, outcome, hj⟩
  exact not_running_of_finished hj hr

theorem result?_eq_some_iff {outcome : Except Refusal Unit} :
    s.result? h = some (r, outcome) ↔ s.job? h = some ⟨r, .finished outcome⟩ := by
  unfold result?
  cases s.job? h with
  | none => simp
  | some j =>
    obtain ⟨r', progress⟩ := j
    cases progress <;> simp

/-- What was not finished has no result. -/
theorem result?_eq_none (hnot : ¬ s.Finished h) : s.result? h = none := by
  cases hres : s.result? h with
  | none => rfl
  | some x => exact absurd ⟨x.1, x.2, result?_eq_some_iff.1 hres⟩ hnot

/-- A call about a volume has a lock. -/
theorem needsLock_of_volume (hvolume : r.volume = v) (hv : v.isEmpty = false) :
    r.needsLock = true := by
  unfold Call.needsLock
  rw [hvolume, hv]
  rfl

theorem lockStep_of_volume (hvolume : r.volume = v) (hv : v.isEmpty = false)
    (a : LockTable.Step) : s.lockStep r a = s.locks.step a :=
  if_pos (needsLock_of_volume hvolume hv)

theorem begun_congr (hj : s'.job? h = s.job? h) : s'.Begun h ↔ s.Begun h := by
  unfold Begun Running Finished
  rw [hj]

theorem result?_congr (hj : s'.job? h = s.job? h) : s'.result? h = s.result? h := by
  unfold result?
  rw [hj]

/-- A job that is moved on, but was not finished and is not, changes no result. -/
theorem result?_of_not_finished (hothers : ∀ k, k ≠ h → s'.job? k = s.job? k)
    (hbefore : ¬ s.Finished h) (hafter : ¬ s'.Finished h) (k : Handle) :
    s'.result? k = s.result? k := by
  by_cases hk : k = h
  · rw [hk, result?_eq_none hafter, result?_eq_none hbefore]
  · exact result?_congr (hothers k hk)

theorem completed_congr (hserved : s'.served = s.served)
    (hresult : ∀ k ∈ s.served, s'.result? k = s.result? k) : s'.completed = s.completed := by
  unfold completed
  rw [hserved]
  exact List.filterMap_congr hresult

/-! ## 2. The invariant -/

/-- How the world came about. -/
inductive Course (naming : DeviceNaming) (start : MemoryWorld) (s : Traffic) : Prop
  /-- No job runs, and the finished calls lead to the world as it is. -/
  | idle (free : ∀ h, ¬ s.Running h)
      (same : Call.runAll naming (s.completed.map (·.1)) start = (s.completed.map (·.2), s.world))
  /-- The job that was served last runs. It began where the finished calls lead to, and the rest of
      it ends where all of it ends. -/
  | busy {h : Handle} {r : Call} {rest : Procedure (Except Refusal Unit)} {before : List Handle}
      {w : MemoryWorld} (running : s.job? h = some ⟨r, .running rest⟩)
      (last : s.served = before ++ [h])
      (same : Call.runAll naming (s.completed.map (·.1)) start = (s.completed.map (·.2), w))
      (ahead : rest.run MemoryTable.system s.world = r.run MemoryTable.system naming w)

/-- The handle of a job stands where the job does: it waits for the lock of the volume while the job
    is queued, holds it while the job runs, and is gone otherwise. -/
def Placed (s : Traffic) (v : String) (h : Handle) : Prop :=
  match s.job? h with
  | some ⟨_, .queued⟩ => ∃ p, s.locks.ticket? h = some ⟨v, p⟩ ∧ p.isHeld = false
  | some ⟨_, .running _⟩ => s.locks.Holds h v
  | _ => s.locks.ticket? h = none

/-- Calls on one volume keep out of each other's way. -/
structure Serial (naming : DeviceNaming) (start : MemoryWorld) (v : String) (s : Traffic) :
    Prop where
  consistent : s.locks.Consistent
  about : ∀ h j, s.job? h = some j → j.call.volume = v
  placed : ∀ h, s.Placed v h
  served : ∀ h, h ∈ s.served ↔ s.Begun h
  nodup : s.served.Nodup
  course : Course naming start s

theorem placed_of_none (hj : s.job? h = none) : s.Placed v h ↔ s.locks.ticket? h = none := by
  unfold Placed
  rw [hj]

theorem placed_of_queued (hj : s.job? h = some ⟨r, .queued⟩) :
    s.Placed v h ↔ ∃ p, s.locks.ticket? h = some ⟨v, p⟩ ∧ p.isHeld = false := by
  unfold Placed
  rw [hj]

theorem placed_of_running {rest : Procedure (Except Refusal Unit)}
    (hj : s.job? h = some ⟨r, .running rest⟩) : s.Placed v h ↔ s.locks.Holds h v := by
  unfold Placed
  rw [hj]

/-- A job that is over has no ticket. -/
theorem placed_of_over {progress : Progress} (hj : s.job? h = some ⟨r, progress⟩)
    (hover : progress = .cancelled ∨ ∃ outcome, progress = .finished outcome) :
    s.Placed v h ↔ s.locks.ticket? h = none := by
  unfold Placed
  rw [hj]
  rcases hover with rfl | ⟨outcome, rfl⟩
  · rfl
  · rfl

theorem placed_congr (hj : s'.job? h = s.job? h) (ht : s'.locks.ticket? h = s.locks.ticket? h) :
    s'.Placed v h ↔ s.Placed v h := by
  unfold Placed LockTable.Holds
  rw [hj, ht]

theorem serial_quiet (naming : DeviceNaming) (start : MemoryWorld) (v : String) :
    Serial naming start v (quiet start) := by
  have hnone : ∀ h, ¬ (quiet start).Begun h := fun h => not_begun_of_none (job?_quiet start h)
  refine ⟨LockTable.consistent_empty, ?about, ?placed, ?served, List.nodup_nil, ?course⟩
  case about =>
    intro h j hj
    rw [job?_quiet] at hj
    cases hj
  case placed => exact fun h => (placed_of_none (job?_quiet start h)).2 rfl
  case served => exact fun h => iff_of_false List.not_mem_nil (hnone h)
  case course => exact .idle (fun h hr => hnone h (.inl hr)) rfl

/-- Whoever runs holds the lock. -/
theorem Serial.holds_of_running (hs : Serial naming start v s) (hh : s.Running h) :
    s.locks.Holds h v := by
  obtain ⟨r, rest, hj⟩ := hh
  exact (placed_of_running hj).1 (hs.placed h)

/-- One job runs at most. -/
theorem Serial.running_unique (hs : Serial naming start v s) (hh : s.Running h)
    (hk : s.Running k) : h = k :=
  hs.consistent.exclusive.one v h k (hs.holds_of_running hh) (hs.holds_of_running hk)

/-! ## 3. What a job does to the course -/

section Course

/-- A job that is not under way, before and after, makes no difference. -/
theorem Course.of_not_begun (hc : Course naming start s) (hworld : s'.world = s.world)
    (hserved : s'.served = s.served) (hothers : ∀ k, k ≠ h → s'.job? k = s.job? k)
    (hbefore : ¬ s.Begun h) (hafter : ¬ s'.Begun h) : Course naming start s' := by
  have hresult := result?_of_not_finished hothers (fun hf => hbefore (.inr hf))
    fun hf => hafter (.inr hf)
  have hcompleted : s'.completed = s.completed := completed_congr hserved fun k _ => hresult k
  cases hc with
  | idle free same =>
    refine .idle (fun k hk => ?_) ?_
    · by_cases hkh : k = h
      · exact hafter (hkh ▸ .inl hk)
      · obtain ⟨r, rest, hj⟩ := hk
        rw [hothers k hkh] at hj
        exact free k ⟨r, rest, hj⟩
    · rw [hcompleted, hworld]
      exact same
  | @busy k r rest before w running last same ahead =>
    have hkh : k ≠ h := by
      intro hkh
      exact hbefore (hkh ▸ .inl ⟨r, rest, running⟩)
    rw [← hcompleted] at same
    rw [← hworld] at ahead
    exact .busy ((hothers k hkh).trans running) (hserved.trans last) same ahead

/-- Where nobody runs, a job that is served begins with the world as it is. -/
theorem Course.served (hc : Course naming start s) (hfree : ∀ k, ¬ s.Running k)
    (hqueued : s.job? h = some ⟨r, .queued⟩) (locks : LockTable) :
    Course naming start (serve naming { s with locks } h r) := by
  generalize hs' : serve naming { s with locks } h r = s'
  have hjobs : ∀ k, s'.job? k =
      if k = h then some ⟨r, .running (r.procedure naming)⟩ else s.job? k := by
    rw [← hs']
    exact job?_setProgress_of_job hqueued _
  have hjob := (hjobs h).trans (if_pos rfl)
  have hnot : ¬ s.Finished h := fun hf => not_begun_of_queued hqueued (.inr hf)
  have hresult := result?_of_not_finished (fun k hk => (hjobs k).trans (if_neg hk)) hnot
    (not_finished_of_running ⟨_, _, hjob⟩)
  have hserved : s'.served = s.served ++ [h] := by rw [← hs']; rfl
  have hcompleted : s'.completed = s.completed := by
    unfold completed
    rw [hserved, List.filterMap_append, List.filterMap_congr fun k _ => hresult k]
    simp [hresult, result?_eq_none hnot]
  have hworld : s'.world = s.world := by rw [← hs']; rfl
  cases hc with
  | idle free same =>
    rw [← hcompleted, ← hworld] at same
    exact .busy hjob hserved same rfl
  | busy running last same ahead => exact absurd ⟨_, _, running⟩ (hfree _)

/-- The job that runs takes an action. -/
theorem Course.acted {a : Action} {next : a.Answer → Procedure (Except Refusal Unit)}
    (hc : Course naming start s) (honly : ∀ k, s.Running k → k = h)
    (hrunning : s.job? h = some ⟨r, .running (.act a next)⟩) :
    Course naming start
      { s.setProgress h (.running (next (a.perform MemoryTable.system s.world).1)) with
        world := (a.perform MemoryTable.system s.world).2 } := by
  generalize hs' :
    ({ s.setProgress h (.running (next (a.perform MemoryTable.system s.world).1)) with
        world := (a.perform MemoryTable.system s.world).2 } : Traffic) = s'
  have hjobs : ∀ k, s'.job? k = if k = h then
      some ⟨r, .running (next (a.perform MemoryTable.system s.world).1)⟩ else s.job? k := by
    rw [← hs']
    exact job?_setProgress_of_job hrunning _
  have hjob := (hjobs h).trans (if_pos rfl)
  have hresult := result?_of_not_finished (fun k hk => (hjobs k).trans (if_neg hk))
    (not_finished_of_running ⟨_, _, hrunning⟩) (not_finished_of_running ⟨_, _, hjob⟩)
  have hserved : s'.served = s.served := by rw [← hs']; rfl
  have hcompleted : s'.completed = s.completed := completed_congr hserved fun k _ => hresult k
  cases hc with
  | idle free same => exact absurd ⟨_, _, hrunning⟩ (free h)
  | @busy k r' rest before w running last same ahead =>
    obtain rfl : k = h := honly k ⟨_, _, running⟩
    rw [hrunning] at running
    cases running
    have hworld : s'.world = (a.perform MemoryTable.system s.world).2 := by rw [← hs']
    -- the action was the next one to be done, so what is left ends where it did before
    have hahead : (next (a.perform MemoryTable.system s.world).1).run MemoryTable.system s'.world =
        r.run MemoryTable.system naming w := by
      rw [hworld]
      exact ahead
    rw [← hcompleted] at same
    exact .busy hjob (hserved.trans last) same hahead

/-- The job that runs comes to its end, and its call is the last one finished. -/
theorem Course.ended {outcome : Except Refusal Unit} (hc : Course naming start s)
    (honly : ∀ k, s.Running k → k = h) (hnodup : s.served.Nodup)
    (hrunning : s.job? h = some ⟨r, .running (.done outcome)⟩) (locks : LockTable) :
    Course naming start { s.setProgress h (.finished outcome) with locks } := by
  generalize hs' : ({ s.setProgress h (.finished outcome) with locks } : Traffic) = s'
  have hjobs : ∀ k, s'.job? k = if k = h then some ⟨r, .finished outcome⟩ else s.job? k := by
    rw [← hs']
    exact job?_setProgress_of_job hrunning _
  have hjob := (hjobs h).trans (if_pos rfl)
  have hserved : s'.served = s.served := by rw [← hs']; rfl
  have hworld : s'.world = s.world := by rw [← hs']; rfl
  cases hc with
  | idle free same => exact absurd ⟨_, _, hrunning⟩ (free h)
  | @busy k r' rest before w running last same ahead =>
    obtain rfl : k = h := honly k ⟨_, _, running⟩
    rw [hrunning] at running
    cases running
    have hcompleted : s'.completed = s.completed ++ [(r, outcome)] := by
      have hnot : k ∉ before := by
        rw [last] at hnodup
        exact fun hk => List.disjoint_of_nodup_append hnodup hk (List.mem_singleton_self k)
      have hbefore : ∀ j ∈ before, s'.result? j = s.result? j := by
        intro j hj
        have hne : j ≠ k := fun heq => hnot (heq ▸ hj)
        exact result?_congr ((hjobs j).trans (if_neg hne))
      have hnone : s.result? k = none :=
        result?_eq_none (not_finished_of_running ⟨_, _, hrunning⟩)
      unfold completed
      rw [hserved, last, List.filterMap_append, List.filterMap_append,
        List.filterMap_congr hbefore]
      simp [hnone, result?_eq_some_iff.2 hjob]
    refine .idle (fun j hj => ?_) ?_
    · by_cases hjk : j = k
      · exact not_running_of_finished hjob (hjk ▸ hj)
      · obtain ⟨q, rest, hq⟩ := hj
        rw [hjobs, if_neg hjk] at hq
        exact hjk (honly j ⟨q, rest, hq⟩)
    · -- nothing is left to be done, so the whole call leads to the world as it is
      have hrun : r.run MemoryTable.system naming w = (outcome, s.world) := ahead.symm
      rw [hcompleted, hworld, List.map_append, List.map_append, Call.runAll_append same]
      simp [Call.runAll, hrun]

end Course

/-! ## 4. Every event -/

namespace Serial

variable (hs : Serial naming start v s) (heffect : Effect naming s e s')
include hs heffect

/-- An event keeps the invariant if its job is in its place, has begun exactly if it was served, and
    leaves a course. -/
theorem of_effect (harrive : ∀ h r, e = .arrive h r → r.volume = v)
    (hplaced : s'.Placed v e.handle)
    (hserved : s'.served = s.served ∧ (s'.Begun e.handle ↔ s.Begun e.handle) ∨
      s'.served = s.served ++ [e.handle] ∧ ¬ s.Begun e.handle ∧ s'.Begun e.handle)
    (hcourse : Course naming start s') : Serial naming start v s' := by
  have hothers : ∀ k, k ≠ e.handle → s'.job? k = s.job? k := fun k => heffect.job?_of_ne
  refine ⟨heffect.consistent hs.consistent, ?about, ?placed, ?served, ?nodup, hcourse⟩
  case about =>
    intro k j hj
    rcases heffect.call hj with ⟨j', hj', hcall⟩ | harrived
    · rw [hcall]
      exact hs.about k j' hj'
    · exact harrive k j.call harrived
  case placed =>
    intro k
    by_cases hke : k = e.handle
    · rw [hke]
      exact hplaced
    · exact (placed_congr (hothers k hke) (heffect.ticket?_of_ne hke)).2 (hs.placed k)
  case served =>
    intro k
    by_cases hke : k = e.handle
    · rw [hke]
      rcases hserved with ⟨hsame, hbegun⟩ | ⟨hmore, _, hbegun⟩
      · rw [hsame, hbegun]
        exact hs.served _
      · rw [hmore]
        exact iff_of_true (List.mem_append_right _ (List.mem_singleton_self _)) hbegun
    · rw [begun_congr (hothers k hke), ← hs.served]
      rcases hserved with ⟨hsame, _⟩ | ⟨hmore, _, _⟩
      · rw [hsame]
      · rw [hmore]
        simp [hke]
  case nodup =>
    rcases hserved with ⟨hsame, _⟩ | ⟨hmore, hnot, _⟩
    · rw [hsame]
      exact hs.nodup
    · rw [hmore, ← List.concat_eq_append]
      exact hs.nodup.concat (mt (hs.served _).1 hnot)

/-- So does an event about a job that has not begun, before and after. -/
theorem of_not_begun (harrive : ∀ h r, e = .arrive h r → r.volume = v)
    (hplaced : s'.Placed v e.handle) (hworld : s'.world = s.world)
    (hserved : s'.served = s.served) (hbefore : ¬ s.Begun e.handle)
    (hafter : ¬ s'.Begun e.handle) : Serial naming start v s' := by
  refine hs.of_effect heffect harrive hplaced (.inl ⟨hserved, iff_of_false hafter hbefore⟩) ?_
  exact hs.course.of_not_begun hworld hserved (fun k => heffect.job?_of_ne) hbefore hafter

/-- **Every event keeps the invariant.** -/
theorem effect (hv : v.isEmpty = false) (harrive : ∀ h r, e = .arrive h r → r.volume = v) :
    Serial naming start v s' := by
  cases heffect with
  | ignored => exact hs
  | @arrived h r new =>
    have hvolume : r.volume = v := harrive h r rfl
    have hjob := (job?_arrived new ⟨r, .queued⟩ (s.lockStep r (.create h r.volume)) h).trans
      (if_pos rfl)
    have hticket : (s.lockStep r (.create h r.volume)).ticket? h = some ⟨v, .fresh⟩ := by
      rw [lockStep_of_volume hvolume hv, hvolume]
      exact LockTable.ticket?_step_create ((placed_of_none new).1 (hs.placed h)) v
    exact hs.of_not_begun (.arrived new) harrive ((placed_of_queued hjob).2 ⟨_, hticket, rfl⟩) rfl
      rfl (not_begun_of_none new) (not_begun_of_queued hjob)
  | @waited h r queued still =>
    have hvolume : r.volume = v := hs.about h _ queued
    have hnot : ¬ s.Begun h := not_begun_of_queued queued
    obtain ⟨p, hp, _⟩ := (placed_of_queued queued).1 (hs.placed h)
    obtain ⟨p', hp'⟩ := LockTable.exists_ticket?_step_poll hp
    rw [← lockStep_of_volume hvolume hv] at hp'
    have hheld : p'.isHeld = false := by
      cases p' with
      | fresh => rfl
      | waiting m => rfl
      | held m => exact absurd ⟨m, hvolume ▸ hp'⟩ still
    exact hs.of_not_begun (.waited queued still) harrive
      ((placed_of_queued (s := { s with locks := s.lockStep r (.poll h) }) queued).2
        ⟨p', hp', hheld⟩) rfl rfl hnot hnot
  | @served h r queued lock =>
    have hvolume : r.volume = v := hs.about h _ queued
    have hnot : ¬ s.Begun h := not_begun_of_queued queued
    have hjob : (serve naming { s with locks := s.lockStep r (.poll h) } h r).job? h =
        some ⟨r, .running (r.procedure naming)⟩ :=
      (job?_setProgress_of_job queued _ h).trans (if_pos rfl)
    have hholds : (s.lockStep r (.poll h)).Holds h v := by
      rw [← hvolume]
      exact lock (needsLock_of_volume hvolume hv)
    -- nobody else runs, for he would hold the lock as well
    have hfree : ∀ k, ¬ s.Running k := by
      intro k hk
      have hne : k ≠ h := fun heq => hnot (heq ▸ .inl hk)
      obtain ⟨m, hm⟩ := hs.holds_of_running hk
      have heffect : Effect naming s (.advance h) _ := .served queued lock
      have hkept : (s.lockStep r (.poll h)).Holds k v := ⟨m, (heffect.ticket?_of_ne hne).trans hm⟩
      exact hne ((heffect.consistent hs.consistent).exclusive.one v k h hkept hholds)
    exact hs.of_effect (.served queued lock) harrive ((placed_of_running hjob).2 hholds)
      (.inr ⟨rfl, hnot, .inl ⟨_, _, hjob⟩⟩) (hs.course.served hfree queued _)
  | @acted h r a next running =>
    have hrunning : s.Running h := ⟨_, _, running⟩
    have hafter := (job?_setProgress_of_job running
      (.running (next (a.perform MemoryTable.system s.world).1)) h).trans (if_pos rfl)
    exact hs.of_effect (.acted running) harrive
      ((placed_of_running hafter).2 (hs.holds_of_running hrunning))
      (.inl ⟨rfl, iff_of_true (.inl ⟨_, _, hafter⟩) (.inl hrunning)⟩)
      (hs.course.acted (fun k hk => hs.running_unique hk hrunning) running)
  | @ended h r outcome running =>
    have hvolume : r.volume = v := hs.about h _ running
    have hrunning : s.Running h := ⟨_, _, running⟩
    have hafter : ({ s.setProgress h (.finished outcome) with
        locks := s.lockStep r (.drop h) } : Traffic).job? h = some ⟨r, .finished outcome⟩ :=
      (job?_setProgress_of_job running _ h).trans (if_pos rfl)
    have hticket : (s.lockStep r (.drop h)).ticket? h = none := by
      rw [lockStep_of_volume hvolume hv]
      exact LockTable.ticket?_step_drop s.locks h
    exact hs.of_effect (.ended running) harrive ((placed_of_over hafter (.inr ⟨_, rfl⟩)).2 hticket)
      (.inl ⟨rfl, iff_of_true (.inr ⟨_, _, hafter⟩) (.inl hrunning)⟩)
      (hs.course.ended (fun k hk => hs.running_unique hk hrunning) hs.nodup running _)
  | @cancelled h r queued =>
    have hvolume : r.volume = v := hs.about h _ queued
    have hafter : ({ s.setProgress h .cancelled with
        locks := s.lockStep r (.drop h) } : Traffic).job? h = some ⟨r, .cancelled⟩ :=
      (job?_setProgress_of_job queued _ h).trans (if_pos rfl)
    have hticket : (s.lockStep r (.drop h)).ticket? h = none := by
      rw [lockStep_of_volume hvolume hv]
      exact LockTable.ticket?_step_drop s.locks h
    exact hs.of_not_begun (.cancelled queued) harrive ((placed_of_over hafter (.inl rfl)).2 hticket)
      rfl rfl (not_begun_of_queued queued) (not_begun_of_job hafter nofun nofun)

end Serial

end VolumeNode.Traffic
