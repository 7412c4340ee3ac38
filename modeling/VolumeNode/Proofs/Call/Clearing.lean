import VolumeNode.Proofs.Call.Actions

/-!
# Clearing a target

A target that a device is mounted at is unmounted as often, and then its directory is removed. Each
of these steps may fail.

* `Unmounts` is a number of unmounts in a row that all succeed. Of a number of unmounts either all
  succeed or one of them is the first to fail (`Unmounts.all_or_failed`, `Unmounts.not_of_failed`).
* A handler that unmounts a path some times asks for it as often, up to the first failure
  (`Handler.runs_unmountTimes`, `Handler.runs_unmountTimes_of_failed`).
* `Clearing` is the course of all this, and **`Handler.exists_clearing`** says that it is taken.
-/

namespace VolumeNode

variable {α σ : Type}

/-! ## 1. Unmounts in a row -/

/-- A path is unmounted so many times, and each of these unmounts succeeds. -/
inductive Unmounts (m : MountSystem σ) (t : FileTree) (target : String) : Nat → σ → σ → Prop
  | none (s : σ) : Unmounts m t target 0 s s
  | more {n : Nat} {s s' s'' : σ} (first : m.unmount target t s = (.ok (), s'))
      (rest : Unmounts m t target n s' s'') : Unmounts m t target (n + 1) s s''

/-- A number of unmounts in a row succeeds, unless one of them is the first to fail. -/
theorem Unmounts.all_or_failed (m : MountSystem σ) (t : FileTree) (target : String) (n : Nat)
    (s : σ) :
    (∃ s', Unmounts m t target n s s') ∨
      ∃ k s₁ e s', k < n ∧ Unmounts m t target k s s₁ ∧ m.unmount target t s₁ = (.error e, s') := by
  induction n generalizing s with
  | zero => exact .inl ⟨s, .none s⟩
  | succ n ih =>
    cases hfirst : m.unmount target t s with
    | mk x s₁ =>
      cases x with
      | error e => exact .inr ⟨0, s, e, s₁, Nat.succ_pos n, .none s, hfirst⟩
      | ok u =>
        obtain ⟨s', hall⟩ | ⟨k, s₂, e, s', hk, hsome, hfail⟩ := ih s₁
        · exact .inl ⟨s', .more hfirst hall⟩
        · exact .inr ⟨k + 1, s₂, e, s', Nat.succ_lt_succ hk, .more hfirst hsome, hfail⟩

/-- An unmount that fails ends every row of unmounts that succeed. -/
theorem Unmounts.le_of_failed {m : MountSystem σ} {t : FileTree} {target : String} {n k : Nat}
    {s s' s₁ s₂ : σ} {e : MountFailure} (h : Unmounts m t target n s s')
    (hk : Unmounts m t target k s s₁) (hfail : m.unmount target t s₁ = (.error e, s₂)) :
    n ≤ k := by
  induction hk generalizing n with
  | none s =>
    cases h with
    | none => exact Nat.le_refl 0
    | more first rest =>
      rw [hfail] at first
      cases first
  | more first rest ih =>
    cases h with
    | none => exact Nat.zero_le _
    | more first' rest' =>
      rw [first] at first'
      cases first'
      exact Nat.succ_le_succ (ih rest' hfail)

/-- No row of so many unmounts succeeds if one fails before. -/
theorem Unmounts.not_of_failed {m : MountSystem σ} {t : FileTree} {target : String} {j k : Nat}
    {s s₁ s₂ : σ} {e : MountFailure} (hj : j < k) (h : Unmounts m t target j s s₁)
    (hfail : m.unmount target t s₁ = (.error e, s₂)) : ¬ ∃ s', Unmounts m t target k s s' := by
  intro ⟨s', hall⟩
  have hle : k ≤ j := hall.le_of_failed h hfail
  omega

namespace Handler

variable {kind : Action → Bool} {m : MountSystem σ} {target : String} {n k : Nat}

/-- A handler that unmounts a path some times asks for it as often, if all of that succeeds. -/
theorem runs_unmountTimes (hkind : kind (.unmount target) = true) {w : World σ} {s : σ}
    (h : Unmounts m w.tree target n w.mounts s) :
    Runs kind m w (unmountTimes target n) (List.replicate n (.unmount target)) (.ok ())
      { w with mounts := s } := by
  induction n generalizing w with
  | zero =>
    cases h
    exact .pure ()
  | succ n ih =>
    cases h with
    | @more _ _ s₁ _ first rest =>
      refine (Runs.ask hkind).bind ?_
      simp only [Action.perform, World.setMounts, first]
      exact Runs.quiet_bind (a := ()) (.demand _ _) (ih (w := { w with mounts := s₁ }) rest)

/-- A handler that unmounts a path some times stops at the first failure. -/
theorem runs_unmountTimes_of_failed (hkind : kind (.unmount target) = true) {w : World σ}
    {s s' : σ} {e : MountFailure} (hk : k < n) (h : Unmounts m w.tree target k w.mounts s)
    (hfail : m.unmount target w.tree s = (.error e, s')) :
    Runs kind m w (unmountTimes target n) (List.replicate (k + 1) (.unmount target))
      (.error (.unmountFailed target e)) { w with mounts := s' } := by
  obtain ⟨n, rfl⟩ := Nat.exists_eq_succ_of_ne_zero (Nat.ne_zero_of_lt hk)
  induction k generalizing w n with
  | zero =>
    cases h
    refine (Runs.ask hkind).bind ?_
    simp only [Action.perform, World.setMounts, hfail]
    exact (Runs.demand _ _).fail _
  | succ k ih =>
    cases h with
    | @more _ _ s₁ _ first rest =>
      have hkn : k < n := Nat.lt_of_succ_lt_succ hk
      obtain ⟨n, rfl⟩ := Nat.exists_eq_succ_of_ne_zero (Nat.ne_zero_of_lt hkn)
      refine (Runs.ask hkind).bind ?_
      simp only [Action.perform, World.setMounts, first]
      exact Runs.quiet_bind (a := ()) (.demand _ _)
        (ih (w := { w with mounts := s₁ }) rest hfail n hkn)

end Handler

/-! ## 2. Unmounts and a removal -/

/-- How a target is cleared that a device is mounted at `k` times: the effects in their order, the
    outcome and the world at the end. -/
inductive Clearing (m : MountSystem σ) (t : FileTree) (target : String) (k : Nat) (s : σ) :
    List Action → Except Refusal Unit → World σ → Prop
  | absent (none : k = 0) : Clearing m t target k s [] (.ok ()) ⟨t, s⟩
  /-- After `j` unmounts the next one is the first to fail, and the last to be asked for. -/
  | stopped {j : Nat} {s₁ s₂ : σ} {e : MountFailure} (early : j < k)
      (before : Unmounts m t target j s s₁) (fails : m.unmount target t s₁ = (.error e, s₂)) :
      Clearing m t target k s (List.replicate (j + 1) (.unmount target))
        (.error (.unmountFailed target e)) ⟨t, s₂⟩
  | kept {s' : σ} {e : SystemError} (some : k ≠ 0) (all : Unmounts m t target k s s')
      (refused : t.removeDirectory target = .error e) :
      Clearing m t target k s (List.replicate k (.unmount target) ++ [.removeDirectory target])
        (.error (.directoryNotRemoved target e)) ⟨t, s'⟩
  | removed {s' : σ} {t' : FileTree} (some : k ≠ 0) (all : Unmounts m t target k s s')
      (granted : t.removeDirectory target = .ok t') :
      Clearing m t target k s (List.replicate k (.unmount target) ++ [.removeDirectory target])
        (.ok ()) ⟨t', s'⟩

/-- What is done once the number of mounts is known. -/
theorem Handler.exists_clearing (m : MountSystem σ) (t : FileTree) (target : String) (k : Nat)
    (s : σ) :
    ∃ effects outcome w', Clearing m t target k s effects outcome w' ∧
      Handler.Runs (·.changes) m ⟨t, s⟩
        (if k = 0 then pure ()
          else do
            unmountTimes target k
            demand (← ask (.removeDirectory target)) (.directoryNotRemoved target)) effects outcome
        w' := by
  by_cases hzero : k = 0
  · refine ⟨[], .ok (), ⟨t, s⟩, .absent hzero, ?_⟩
    rw [if_pos hzero]
    exact .pure ()
  · rw [if_neg hzero]
    obtain ⟨s', hall⟩ | ⟨j, s₁, e, s₂, hj, hsome, hfail⟩ := Unmounts.all_or_failed m t target k s
    · have hunmounts : Runs (·.changes) m ⟨t, s⟩ _ _ _ _ := runs_unmountTimes rfl hall
      have hremove : Runs (·.changes) m ⟨t, s'⟩ _ _ _ _ :=
        .request (a := .removeDirectory target) rfl
          fun answer => answer.mapError (.directoryNotRemoved target)
      cases hanswer : t.removeDirectory target with
      | ok t' =>
        simp only [Action.perform, hanswer] at hremove
        exact ⟨_, _, _, .removed hzero hall hanswer, hunmounts.bind hremove⟩
      | error e =>
        simp only [Action.perform, hanswer] at hremove
        exact ⟨_, _, _, .kept hzero hall hanswer, hunmounts.bind hremove⟩
    · have hunmounts : Runs (·.changes) m ⟨t, s⟩ _ _ _ _ :=
        runs_unmountTimes_of_failed rfl hj hsome hfail
      exact ⟨_, _, _, .stopped hj hsome hfail, hunmounts.fail _⟩

end VolumeNode
