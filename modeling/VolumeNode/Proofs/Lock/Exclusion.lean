import VolumeNode.Proofs.Lock.Consistency

/-!
# One holder at a time

* `First`: the handle in front of the queue of a volume. There is one while anybody waits or holds
  (`Consistent.exists_first`), and whoever holds is that one (`Consistent.first_of_holds`).
* `Exclusive`: a volume has one holder at most, and all who wait for it or hold it are at one mutex,
  the one that the volume has an entry for. Whoever asks next is sent there too.
* **`exclusive_run`**: that is so after any steps, in any order.
* `queuedSteps` is a run in which a holder has gone and two others wait, for statements about single
  runs.
-/

namespace VolumeNode.LockTable

section First

variable {s : LockTable} {h k : Handle} {v : String}

/-- A handle is in front of the queue of a volume. -/
def First (s : LockTable) (h : Handle) (v : String) : Prop :=
  ∃ m, s.entry? v = some m ∧ (s.queue m).head? = some h

theorem First.unique (hh : s.First h v) (hk : s.First k v) : h = k := by
  obtain ⟨m, hm, hh⟩ := hh
  obtain ⟨n, hn, hk⟩ := hk
  rw [hm] at hn
  cases hn
  rw [hh] at hk
  exact Option.some.inj hk

/-- Whoever holds is in front. -/
theorem Consistent.first_of_holds (hs : Consistent s) (hh : s.Holds h v) : s.First h v := by
  obtain ⟨m, hm⟩ := hh
  exact ⟨m, hs.entered h _ m hm rfl, hs.front h v m hm⟩

/-- Where anybody has asked, one of those is in front. -/
theorem Consistent.exists_first (hs : Consistent s) (hk : s.Asked k v) :
    ∃ h, s.First h v ∧ s.Asked h v := by
  obtain ⟨m, he, hmem⟩ := hs.exists_queue hk
  cases hq : s.queue m with
  | nil =>
    rw [hq] at hmem
    exact absurd hmem List.not_mem_nil
  | cons h rest =>
    have hfront : (s.queue m).head? = some h := by rw [hq]; rfl
    have hh : h ∈ s.queue m := List.mem_of_head? hfront
    exact ⟨h, ⟨m, he, hfront⟩, (hs.mem_queue_iff he).1 hh⟩

end First

/-- Those who want one volume keep out of each other's way. -/
structure Exclusive (s : LockTable) : Prop where
  /-- A volume has one holder at most. -/
  one : ∀ v h k, s.Holds h v → s.Holds k v → h = k
  /-- Who waits for a volume or holds it is at the mutex that the volume has an entry for. -/
  shared : ∀ v h p m, s.ticket? h = some ⟨v, p⟩ → p.mutex? = some m → s.entry? v = some m
  /-- While anybody is there, who asks next joins that mutex too and has to wait. -/
  joins : ∀ v h k p m, s.ticket? h = some ⟨v, .fresh⟩ → s.ticket? k = some ⟨v, p⟩ →
    p.mutex? = some m → (s.step (.poll h)).ticket? h = some ⟨v, .waiting m⟩

theorem Consistent.exclusive {s : LockTable} (hs : Consistent s) : Exclusive s where
  one := fun v h k hh hk => (hs.first_of_holds hh).unique (hs.first_of_holds hk)
  shared := fun v h p m ht hp => hs.entered h _ m ht hp
  joins := by
    intro v h k p m hfresh hk hp
    have he : s.entry? v = some m := hs.entered k _ m hk hp
    have hmem : k ∈ s.queue m := (hs.queued k m).2 ⟨_, hk, hp⟩
    rw [step_poll_of_fresh hfresh, ticket?_join hfresh, if_pos rfl, mutexOf_of_entry he,
      if_neg (List.ne_nil_of_mem hmem)]

/-- **Whatever steps were taken, volumes are locked exclusively**: at most one holder each, and one
    mutex for all who want it. -/
theorem exclusive_run (steps : List Step) : Exclusive (empty.run steps) :=
  (consistent_run steps).exclusive

/-- Three handles want one volume. The first one gets it and drops it again, so it is the second
    one's turn, and a fourth one has not asked yet. -/
def queuedSteps : List Step :=
  [.create "a" "v", .create "b" "v", .create "c" "v", .create "d" "v", .poll "a", .poll "b",
    .poll "c", .drop "a"]

/-- The one who asks last is sent to the mutex where the second one, who has the lock by now, and
    the third one are. -/
theorem exclusive_queuedSteps :
    (empty.run (queuedSteps ++ [.poll "b"])).ticket? "b" = some ⟨"v", .held 0⟩ ∧
      (empty.run (queuedSteps ++ [.poll "b"])).ticket? "c" = some ⟨"v", .waiting 0⟩ ∧
      ((empty.run (queuedSteps ++ [.poll "b"])).step (.poll "d")).ticket? "d" =
        some ⟨"v", .waiting 0⟩ := by
  have hc : (empty.run (queuedSteps ++ [.poll "b"])).ticket? "c" = some ⟨"v", .waiting 0⟩ := by
    decide
  have hd : (empty.run (queuedSteps ++ [.poll "b"])).ticket? "d" = some ⟨"v", .fresh⟩ := by decide
  have hexclusive := exclusive_run (queuedSteps ++ [.poll "b"])
  have hjoins := hexclusive.joins "v" "d" "c" (.waiting 0) 0 hd hc rfl
  exact ⟨by decide, hc, hjoins⟩

end VolumeNode.LockTable
