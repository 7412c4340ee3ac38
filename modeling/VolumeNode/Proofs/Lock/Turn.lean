import VolumeNode.Proofs.Lock.Exclusion

/-!
# First come, first served

* `AskedAt`: at which step of a run a handle asked for its lock, told from the steps alone. Every
  handle that waits or holds asked once (`exists_askedAt_iff`, `AskedAt.unique`).
* `Consistent.queue_effect`: a step adds nobody to a queue but the one who asks, and that one at the
  end. So the queues are in the order of asking (`queue_pairwise`).
* `InTurn`: a handle that waits gets its lock when it is polled exactly if nobody holds it and
  nobody asked before it who still waits; a handle that asks gets it at once exactly if nobody holds
  the lock or waits for it. So somebody can always go on, and nobody is overtaken.
* **`inTurn_run`**: that is so after any steps, in any order, also after locks were given back and
  handles were dropped whose turn it was.
-/

namespace VolumeNode.LockTable

/-! ## 1. When a handle asked -/

/-- A handle asked for its lock at a step, counted from 0, and was not dropped since. -/
def AskedAt (steps : List Step) (n : Nat) (h : Handle) : Prop :=
  ∃ before after v, steps = before ++ .poll h :: after ∧ before.length = n ∧
    (empty.run before).ticket? h = some ⟨v, .fresh⟩ ∧ .drop h ∉ after

/-- One step more is a step at which a new handle asks, or an old one may be dropped. -/
theorem askedAt_concat {steps : List Step} {a : Step} {n : Nat} {h : Handle} :
    AskedAt (steps ++ [a]) n h ↔
      AskedAt steps n h ∧ a ≠ .drop h ∨
        n = steps.length ∧ a = .poll h ∧ ∃ v, (empty.run steps).ticket? h = some ⟨v, .fresh⟩ := by
  constructor
  · rintro ⟨before, after, v, heq, hlen, hfresh, hdrop⟩
    rcases List.eq_nil_or_concat after with rfl | ⟨after, b, rfl⟩
    · obtain ⟨rfl, ha⟩ := List.append_inj' heq rfl
      exact .inr ⟨hlen.symm, List.head_eq_of_cons_eq ha, v, hfresh⟩
    · rw [List.concat_eq_append] at heq hdrop
      rw [← List.cons_append, ← List.append_assoc] at heq
      obtain ⟨rfl, ha⟩ := List.append_inj' heq rfl
      obtain rfl := List.head_eq_of_cons_eq ha
      refine .inl ⟨⟨before, after, v, rfl, hlen, hfresh, ?_⟩, ?_⟩
      · exact fun hmem => hdrop (List.mem_append_left _ hmem)
      · rintro rfl
        exact hdrop (List.mem_append_right _ (List.mem_singleton_self _))
  · rintro (⟨⟨before, after, v, rfl, hlen, hfresh, hdrop⟩, ha⟩ | ⟨rfl, rfl, v, hfresh⟩)
    · refine ⟨before, after ++ [a], v, by simp, hlen, hfresh, fun hmem => ?_⟩
      rcases List.mem_append.1 hmem with hmem | hmem
      · exact hdrop hmem
      · exact ha (List.mem_singleton.1 hmem).symm
    · exact ⟨steps, [], v, rfl, rfl, hfresh, List.not_mem_nil⟩

theorem AskedAt.lt {steps : List Step} {n : Nat} {h : Handle} (hn : AskedAt steps n h) :
    n < steps.length := by
  obtain ⟨before, after, v, rfl, rfl, _⟩ := hn
  simp

/-- Those who wait or hold are those who asked at some step. -/
theorem exists_askedAt_iff (steps : List Step) (h : Handle) :
    (∃ n, AskedAt steps n h) ↔ ∃ v, (empty.run steps).Asked h v := by
  induction steps using List.reverseRecOn with
  | nil =>
    constructor
    · rintro ⟨n, hn⟩
      exact absurd hn.lt (Nat.not_lt_zero n)
    · rintro ⟨v, p, hp, _⟩
      cases hp
  | append_singleton steps a ih =>
    have hstep := fun v => (step_effect (empty.run steps) a).asked_iff (h := h) (v := v)
    rw [run_concat]
    constructor
    · rintro ⟨n, hn⟩
      rcases askedAt_concat.1 hn with ⟨hn, ha⟩ | ⟨_, ha, v, hfresh⟩
      · obtain ⟨v, hv⟩ := ih.1 ⟨n, hn⟩
        exact ⟨v, (hstep v).2 (.inl ⟨hv, ha⟩)⟩
      · exact ⟨v, (hstep v).2 (.inr ⟨ha, hfresh⟩)⟩
    · rintro ⟨v, hv⟩
      rcases (hstep v).1 hv with ⟨hv, ha⟩ | ⟨ha, hfresh⟩
      · obtain ⟨n, hn⟩ := ih.2 ⟨v, hv⟩
        exact ⟨n, askedAt_concat.2 (.inl ⟨hn, ha⟩)⟩
      · exact ⟨steps.length, askedAt_concat.2 (.inr ⟨rfl, ha, v, hfresh⟩)⟩

/-- A handle that asked is not fresh any more. -/
theorem AskedAt.not_fresh {steps : List Step} {n : Nat} {h : Handle} (hn : AskedAt steps n h)
    (v : String) : (empty.run steps).ticket? h ≠ some ⟨v, .fresh⟩ := by
  intro hfresh
  obtain ⟨u, hu⟩ := (exists_askedAt_iff steps h).1 ⟨n, hn⟩
  exact ((asked_iff_of_ticket? hfresh).1 hu).2 rfl

/-- A handle asks once. -/
theorem AskedAt.unique {steps : List Step} {n n' : Nat} {h : Handle} (hn : AskedAt steps n h)
    (hn' : AskedAt steps n' h) : n = n' := by
  induction steps using List.reverseRecOn with
  | nil => exact absurd hn.lt (Nat.not_lt_zero n)
  | append_singleton steps a ih =>
    rcases askedAt_concat.1 hn with ⟨hn, _⟩ | ⟨hn, _, v, hfresh⟩
    · rcases askedAt_concat.1 hn' with ⟨hn', _⟩ | ⟨_, _, v, hfresh⟩
      · exact ih hn hn'
      · exact absurd hfresh (hn.not_fresh v)
    · rcases askedAt_concat.1 hn' with ⟨hn', _⟩ | ⟨hn', _⟩
      · exact absurd hfresh (hn'.not_fresh v)
      · rw [hn, hn']

/-! ## 2. Queues are in the order of asking -/

/-- One handle asked before another. -/
def AskedBefore (steps : List Step) (h k : Handle) : Prop :=
  ∃ n n', AskedAt steps n h ∧ AskedAt steps n' k ∧ n < n'

theorem AskedBefore.asymm {steps : List Step} {h k : Handle} (hk : AskedBefore steps h k) :
    ¬ AskedBefore steps k h := by
  rintro ⟨i, i', hi, hi', hlt⟩
  obtain ⟨n, n', hn, hn', hlt'⟩ := hk
  have hni : n = i' := hn.unique hi'
  have hni' : n' = i := hn'.unique hi
  omega

/-- The order stays as it is while neither is dropped. -/
theorem AskedBefore.concat {steps : List Step} {a : Step} {h k : Handle}
    (hk : AskedBefore steps h k) (hh : a ≠ .drop h) (hkd : a ≠ .drop k) :
    AskedBefore (steps ++ [a]) h k := by
  obtain ⟨n, n', hn, hn', hlt⟩ := hk
  exact ⟨n, n', askedAt_concat.2 (.inl ⟨hn, hh⟩), askedAt_concat.2 (.inl ⟨hn', hkd⟩), hlt⟩

/-- **The queue of a mutex is in the order of asking.** -/
theorem queue_pairwise (steps : List Step) (m : Nat) :
    ((empty.run steps).queue m).Pairwise (AskedBefore steps) := by
  induction steps using List.reverseRecOn with
  | nil => exact List.Pairwise.nil
  | append_singleton steps a ih =>
    have hs : Consistent (empty.run steps) := consistent_run steps
    have heffect := step_effect (empty.run steps) a
    -- whoever is in a queue after the step was not dropped by it
    have hkept : ∀ h ∈ ((empty.run steps).step a).queue m, a ≠ .drop h := by
      intro h hmem
      obtain ⟨v, _, hv⟩ := (hs.step a).exists_asked hmem
      rcases heffect.asked_iff.1 hv with ⟨_, ha⟩ | ⟨ha, _⟩
      · exact ha
      · rw [ha]
        exact Step.noConfusion
    rw [run_concat]
    rcases hs.queue_effect heffect m with hsub | ⟨h, v, ha, hfresh, hqueue⟩
    · refine (ih.sublist hsub).imp_of_mem fun hx hy hxy => ?_
      exact hxy.concat (hkept _ hx) (hkept _ hy)
    · rw [hqueue] at hkept ⊢
      rw [List.pairwise_append]
      refine ⟨ih.imp_of_mem fun hx hy hxy => ?_, List.pairwise_singleton _ _, fun x hx y hy => ?_⟩
      · exact hxy.concat (hkept _ (List.mem_append_left _ hx)) (hkept _ (List.mem_append_left _ hy))
      · -- all others asked at earlier steps than this one
        obtain rfl := List.mem_singleton.1 hy
        obtain ⟨u, _, hu⟩ := hs.exists_asked hx
        obtain ⟨n, hn⟩ := (exists_askedAt_iff steps x).2 ⟨u, hu⟩
        refine ⟨n, steps.length, ?_, ?_, hn.lt⟩
        · exact askedAt_concat.2 (.inl ⟨hn, hkept _ (List.mem_append_left _ hx)⟩)
        · exact askedAt_concat.2 (.inr ⟨rfl, ha, v, hfresh⟩)

/-! ## 3. Whose turn it is -/

/-- A handle that waits gets its lock when it is polled exactly if it is in front. -/
theorem Consistent.holds_step_poll_iff {s : LockTable} (hs : Consistent s) {h : Handle} {v : String}
    (hw : s.Waits h v) : (s.step (.poll h)).Holds h v ↔ s.First h v := by
  obtain ⟨m, hm⟩ := hw
  have he : s.entry? v = some m := hs.entered h _ m hm rfl
  have hpoll : s.step (.poll h) =
      if (s.queue m).head? = some h then s.setPhase h (.held m) else s := by
    show s.poll h = _
    unfold poll
    rw [hm]
  rw [hpoll]
  by_cases hfront : (s.queue m).head? = some h
  · rw [if_pos hfront]
    refine ⟨fun _ => ⟨m, he, hfront⟩, fun _ => ⟨m, ?_⟩⟩
    rw [ticket?_setPhase, if_pos rfl, hm]
    rfl
  · rw [if_neg hfront]
    constructor
    · rintro ⟨n, hn⟩
      rw [hm] at hn
      cases hn
    · rintro ⟨n, hn, hnfront⟩
      rw [he] at hn
      cases hn
      exact absurd hnfront hfront

/-- A handle that asks gets its lock at once exactly if nobody else has asked for the volume. -/
theorem Consistent.holds_join_iff {s : LockTable} (hs : Consistent s) {h : Handle} {v : String}
    (hfresh : s.ticket? h = some ⟨v, .fresh⟩) :
    (s.step (.poll h)).Holds h v ↔ ∀ k, ¬ s.Asked k v := by
  rw [step_poll_of_fresh hfresh, ← hs.queue_mutexOf_eq_nil_iff]
  unfold Holds
  rw [ticket?_join hfresh, if_pos rfl]
  by_cases hnil : s.queue (s.mutexOf v).1 = []
  · simp [hnil]
  · simp [hnil]

/-- Whoever is in front asked before all others. -/
theorem askedBefore_of_first {steps : List Step} {h k : Handle} {v : String}
    (hfirst : (empty.run steps).First h v) (hk : (empty.run steps).Asked k v) (hne : k ≠ h) :
    AskedBefore steps h k := by
  obtain ⟨m, he, hfront⟩ := hfirst
  have hmem : k ∈ (empty.run steps).queue m := ((consistent_run steps).mem_queue_iff he).2 hk
  have hpair := queue_pairwise steps m
  obtain ⟨rest, hrest⟩ := List.head?_eq_some_iff.1 hfront
  rw [hrest] at hpair hmem
  rcases List.mem_cons.1 hmem with hk | hk
  · exact absurd hk hne
  · exact (List.pairwise_cons.1 hpair).1 k hk

/-- Who waits is in front exactly if nobody holds the lock and all others who wait asked later. -/
theorem first_iff_of_waits {steps : List Step} {h : Handle} {v : String}
    (hw : (empty.run steps).Waits h v) :
    (empty.run steps).First h v ↔
      (∀ k, ¬ (empty.run steps).Holds k v) ∧
        ∀ k, (empty.run steps).Waits k v → k ≠ h → AskedBefore steps h k := by
  have hs : Consistent (empty.run steps) := consistent_run steps
  constructor
  · intro hfirst
    refine ⟨fun k hk => ?_, fun k hk hne => askedBefore_of_first hfirst hk.asked hne⟩
    exact hw.ne_of_holds hk (hfirst.unique (hs.first_of_holds hk))
  · rintro ⟨hnone, hlater⟩
    obtain ⟨k, hfirst, hk⟩ := hs.exists_first hw.asked
    by_cases hkh : k = h
    · exact hkh ▸ hfirst
    · -- then the one in front asked before this one, who asked before all others
      rcases asked_iff_waits_or_holds.1 hk with hk | hk
      · have hbefore := askedBefore_of_first hfirst hw.asked (Ne.symm hkh)
        exact absurd hbefore (hlater k hk hkh).asymm
      · exact absurd hk (hnone k)

/-- Locks are given in the order in which they were asked for. The table is the one after these
    steps. -/
structure InTurn (steps : List Step) (s : LockTable) : Prop where
  /-- Those who wait or hold asked at one step each. -/
  asked : ∀ h v, s.Waits h v ∨ s.Holds h v → ∃! n, AskedAt steps n h
  /-- Who waits gets the lock when nobody holds it and all others who wait asked later, and only
      then. -/
  waiting : ∀ h v, s.Waits h v →
    ((s.step (.poll h)).Holds h v ↔
      (∀ k, ¬ s.Holds k v) ∧ ∀ k, s.Waits k v → k ≠ h → AskedBefore steps h k)
  /-- Who asks gets the lock at once when nobody holds it or waits for it, and only then. -/
  asking : ∀ h v, s.ticket? h = some ⟨v, .fresh⟩ →
    ((s.step (.poll h)).Holds h v ↔ ∀ k, ¬ s.Holds k v ∧ ¬ s.Waits k v)
  /-- While somebody waits, somebody holds the lock or gets it when polled. -/
  moving : ∀ k v, s.Waits k v →
    (∃ h, s.Holds h v) ∨ ∃ h, s.Waits h v ∧ (s.step (.poll h)).Holds h v
  /-- Who holds the lock asked before all who wait. -/
  holding : ∀ h k v, s.Holds h v → s.Waits k v → AskedBefore steps h k

/-- **First come, first served**, whatever steps were taken. -/
theorem inTurn_run (steps : List Step) : InTurn steps (empty.run steps) := by
  have hs : Consistent (empty.run steps) := consistent_run steps
  refine ⟨?asked, ?waiting, ?asking, ?moving, ?holding⟩
  case asked =>
    intro h v hv
    have ha : (empty.run steps).Asked h v := asked_iff_waits_or_holds.2 hv
    obtain ⟨n, hn⟩ := (exists_askedAt_iff steps h).2 ⟨v, ha⟩
    exact ⟨n, hn, fun n' hn' => hn'.unique hn⟩
  case waiting =>
    intro h v hw
    exact (hs.holds_step_poll_iff hw).trans (first_iff_of_waits hw)
  case asking =>
    intro h v hfresh
    rw [hs.holds_join_iff hfresh]
    refine forall_congr' fun k => ?_
    rw [asked_iff_waits_or_holds, not_or, and_comm]
  case moving =>
    intro k v hk
    obtain ⟨h, hfirst, hh⟩ := hs.exists_first hk.asked
    rcases asked_iff_waits_or_holds.1 hh with hh | hh
    · exact .inr ⟨h, hh, (hs.holds_step_poll_iff hh).2 hfirst⟩
    · exact .inl ⟨h, hh⟩
  case holding =>
    intro h k v hh hk
    exact askedBefore_of_first (hs.first_of_holds hh) hk.asked (hk.ne_of_holds hh)

/-- The first of three has dropped the lock, the second one has not been polled since. The third one
    and the one who has not asked yet do not overtake it, and once it gives up the third one is
    next. -/
theorem inTurn_queuedSteps :
    (empty.run queuedSteps).Waits "b" "v" ∧
      ¬ ((empty.run queuedSteps).step (.poll "c")).Holds "c" "v" ∧
      ¬ ((empty.run queuedSteps).step (.poll "d")).Holds "d" "v" ∧
      ((empty.run (queuedSteps ++ [.drop "b"])).step (.poll "c")).Holds "c" "v" := by
  have hb : (empty.run queuedSteps).Waits "b" "v" := ⟨0, by decide⟩
  have hc : (empty.run queuedSteps).Waits "c" "v" := ⟨0, by decide⟩
  have hd : (empty.run queuedSteps).ticket? "d" = some ⟨"v", .fresh⟩ := by decide
  -- the second one was polled at step 5, the third one at step 6
  have hb5 : AskedAt queuedSteps 5 "b" :=
    ⟨queuedSteps.take 5, queuedSteps.drop 6, "v", rfl, rfl, by decide, by decide⟩
  have hc6 : AskedAt queuedSteps 6 "c" :=
    ⟨queuedSteps.take 6, queuedSteps.drop 7, "v", rfl, rfl, by decide, by decide⟩
  have hturn : InTurn queuedSteps (empty.run queuedSteps) := inTurn_run queuedSteps
  refine ⟨hb, fun hheld => ?_, fun hheld => ?_, ⟨0, by decide⟩⟩
  · have hfirst := ((hturn.waiting "c" "v" hc).1 hheld).2 "b" hb (by decide)
    have hbefore : AskedBefore queuedSteps "b" "c" := ⟨5, 6, hb5, hc6, by decide⟩
    exact hbefore.asymm hfirst
  · exact ((hturn.asking "d" "v" hd).1 hheld "b").2 hb

end VolumeNode.LockTable
