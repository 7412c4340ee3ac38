import Mathlib.Data.Set.Card
import VolumeNode.Proofs.Lock.Exclusion

/-!
# Entries of volumes that nobody wants

A volume is `InFlight` while somebody waits for it or holds it. Each of these has an entry. The
converse fails: only a holder that is dropped clears the entry away, so if the last one who wanted
the volume was dropped while it waited, the entry stays behind.

* `Abandoned` says that this happened and that nobody asked for the volume since; it is told from
  the steps of a run (`abandoned_concat`).
* Nothing but the first to ask and the last to leave changes the entry of a volume
  (`StepEffect.entry?_of_idle`), and no volume has two (`nodup_volumes_run`).
* **`accounted_run`**: after any steps the volumes with an entry are those in flight and those
  abandoned, and there are as many entries as that. So the number of entries is the number of
  volumes in flight exactly if no volume is abandoned.
* `inUse_abandonedSteps`: a run that leaves an entry without any handle.
-/

namespace VolumeNode.LockTable

/-! ## 1. Volumes in flight -/

/-- Somebody waits for a volume or holds it. -/
def InFlight (s : LockTable) (v : String) : Prop :=
  ∃ h, s.Waits h v ∨ s.Holds h v

section InFlight

variable {s s' : LockTable} {a : Step} {v : String}

theorem inFlight_iff : s.InFlight v ↔ ∃ h, s.Asked h v :=
  exists_congr fun _ => asked_iff_waits_or_holds.symm

/-- A volume in flight has an entry. -/
theorem Consistent.entered_of_inFlight (hs : Consistent s) (hv : s.InFlight v) : s.Entered v := by
  obtain ⟨h, hh⟩ := inFlight_iff.1 hv
  obtain ⟨m, he, _⟩ := hs.exists_queue hh
  exact ⟨m, he⟩

/-- Without handles no volume is in flight. -/
theorem not_inFlight_of_handles (hnil : s.handles = []) : ¬ s.InFlight v := by
  rw [inFlight_iff]
  rintro ⟨h, hh⟩
  have hnone : s.ticket? h = none := by
    unfold ticket?
    rw [hnil]
    rfl
  exact not_asked_of_none hnone hh

/-- The entry of a volume stays as it is while the volume is not in flight. -/
theorem StepEffect.entry?_of_idle (heffect : StepEffect s a s') (hbefore : ¬ s.InFlight v)
    (hafter : ¬ s'.InFlight v) : s'.entry? v = s.entry? v := by
  cases heffect with
  | taken live => rfl
  | created new => rfl
  | kept asked behind => rfl
  | @joined h u fresh =>
    rw [join_eq, entry?_setPhase, entry?_setQueue, entry?_mutexOf, if_neg]
    rintro rfl
    exact hafter (inFlight_iff.2 ⟨h, (StepEffect.joined fresh).asked_iff.2 (.inr ⟨rfl, fresh⟩)⟩)
  | acquired waiting front => rfl
  | missing none => rfl
  | discarded fresh => rfl
  | cancelled waiting => rfl
  | @released h u m held =>
    rw [entry?_forget]
    refine entry?_sweep_of_ne _ ?_
    rintro rfl
    exact hbefore ⟨h, .inr ⟨m, held⟩⟩

/-- When the last one who wants a volume goes, its entry stays if that one was waiting, and is
    cleared away if it held the volume. -/
theorem Consistent.entered_iff_of_last (hs : Consistent s) (heffect : StepEffect s a s')
    (hbefore : s.InFlight v) (hafter : ¬ s'.InFlight v) :
    s'.Entered v ↔ ∃ h, a = .drop h ∧ s.Waits h v := by
  obtain ⟨h, hh⟩ := inFlight_iff.1 hbefore
  -- whoever wanted the volume is gone, so this step dropped it
  obtain rfl : a = .drop h := by
    by_contra hne
    exact hafter (inFlight_iff.2 ⟨h, heffect.asked_iff.2 (.inl ⟨hh, hne⟩)⟩)
  cases heffect with
  | missing none => exact absurd hh (not_asked_of_none none)
  | discarded fresh => exact absurd rfl ((asked_iff_of_ticket? fresh).1 hh).2
  | @cancelled _ u m waiting =>
    obtain ⟨rfl, _⟩ := (asked_iff_of_ticket? waiting).1 hh
    exact ⟨fun _ => ⟨h, rfl, m, waiting⟩, fun _ => ⟨m, hs.entered h _ m waiting rfl⟩⟩
  | @released _ u m held =>
    obtain ⟨rfl, _⟩ := (asked_iff_of_ticket? held).1 hh
    rw [forget_sweep] at hafter ⊢
    have hleft : Consistent ((s.leave h m).forget h) := hs.depart held rfl
    have he : entry? ((s.leave h m).forget h) u = some m := hs.entered h _ m held rfl
    have hnil : ((s.leave h m).forget h).queue m = [] := by
      rw [List.eq_nil_iff_forall_not_mem]
      intro k hk
      obtain ⟨p, hp, hne⟩ := (hleft.mem_queue_iff he).1 hk
      exact hafter (inFlight_iff.2 ⟨k, p, by rw [ticket?_sweep]; exact hp, hne⟩)
    have hnone : entry? (((s.leave h m).forget h).sweep u) u = none := by
      rw [entry?_sweep_self he, if_pos hnil]
    constructor
    · rintro ⟨n, hn⟩
      rw [hnone] at hn
      cases hn
    · rintro ⟨k, hk, n, hn⟩
      cases hk
      rw [held] at hn
      cases hn

end InFlight

/-! ## 2. Volumes left behind -/

/-- The last one who wanted a volume was dropped while it waited, and nobody asked for the volume
    since. -/
def Abandoned (steps : List Step) (v : String) : Prop :=
  ∃ before h after, steps = before ++ .drop h :: after ∧ (empty.run before).Waits h v ∧
    ∀ mid, mid <+: after → ¬ (empty.run (before ++ .drop h :: mid)).InFlight v

theorem Abandoned.not_inFlight {steps : List Step} {v : String} (hv : Abandoned steps v) :
    ¬ (empty.run steps).InFlight v := by
  obtain ⟨before, h, after, rfl, _, hidle⟩ := hv
  exact hidle after List.prefix_rfl

/-- One step more abandons a volume, or leaves it abandoned. -/
theorem abandoned_concat {steps : List Step} {a : Step} {v : String} :
    Abandoned (steps ++ [a]) v ↔
      ¬ (empty.run (steps ++ [a])).InFlight v ∧
        (Abandoned steps v ∨ ∃ h, a = .drop h ∧ (empty.run steps).Waits h v) := by
  constructor
  · intro hv
    refine ⟨hv.not_inFlight, ?_⟩
    obtain ⟨before, h, after, heq, hw, hidle⟩ := hv
    rcases List.eq_nil_or_concat after with rfl | ⟨after, b, rfl⟩
    · obtain ⟨rfl, ha⟩ := List.append_inj' heq rfl
      exact .inr ⟨h, List.head_eq_of_cons_eq ha, hw⟩
    · rw [List.concat_eq_append] at heq hidle
      rw [← List.cons_append, ← List.append_assoc] at heq
      obtain ⟨rfl, _⟩ := List.append_inj' heq rfl
      exact .inl ⟨before, h, after, rfl, hw,
        fun mid hmid => hidle mid (hmid.trans (List.prefix_append after [b]))⟩
  · rintro ⟨hnow, ⟨before, h, after, rfl, hw, hidle⟩ | ⟨h, rfl, hw⟩⟩
    · refine ⟨before, h, after ++ [a], by simp, hw, fun mid hmid => ?_⟩
      rcases List.prefix_concat_iff.1 hmid with rfl | hmid
      · simpa using hnow
      · exact hidle mid hmid
    · refine ⟨steps, h, [], rfl, hw, fun mid hmid => ?_⟩
      rw [List.prefix_nil.1 hmid]
      exact hnow

/-- **A volume has an entry exactly if it is in flight or abandoned.** -/
theorem entered_run_iff (steps : List Step) (v : String) :
    (empty.run steps).Entered v ↔ (empty.run steps).InFlight v ∨ Abandoned steps v := by
  induction steps using List.reverseRecOn with
  | nil =>
    constructor
    · rintro ⟨m, hm⟩
      cases hm
    · rintro (⟨h, ⟨m, hm⟩ | ⟨m, hm⟩⟩ | ⟨before, h, after, hnil, _⟩)
      · cases hm
      · cases hm
      · exact absurd hnil.symm (by simp)
  | append_singleton steps a ih =>
    have hs : Consistent (empty.run steps) := consistent_run steps
    have heffect := step_effect (empty.run steps) a
    rw [abandoned_concat, run_concat]
    by_cases hafter : ((empty.run steps).step a).InFlight v
    · exact ⟨fun _ => .inl hafter, fun _ => (hs.step a).entered_of_inFlight hafter⟩
    · by_cases hbefore : (empty.run steps).InFlight v
      · have hkept : ¬ Abandoned steps v := fun hv => hv.not_inFlight hbefore
        rw [hs.entered_iff_of_last heffect hbefore hafter]
        simp [hafter, hkept]
      · have hnone : ¬ ∃ h, a = .drop h ∧ (empty.run steps).Waits h v := by
          rintro ⟨h, _, hw⟩
          exact hbefore ⟨h, .inl hw⟩
        have hsame : ((empty.run steps).step a).Entered v ↔ (empty.run steps).Entered v := by
          unfold Entered
          rw [heffect.entry?_of_idle hbefore hafter]
        rw [hsame, ih]
        simp [hafter, hbefore, hnone]

/-! ## 3. Counting entries -/

/-- The volumes that have an entry. -/
def volumes (s : LockTable) : List String :=
  s.entries.map Prod.fst

theorem mem_volumes_iff {s : LockTable} {v : String} : v ∈ s.volumes ↔ s.Entered v := by
  unfold volumes Entered entry?
  rw [← Option.isSome_iff_exists, List.lookup_isSome_iff, List.mem_map]
  refine exists_congr fun p => and_congr_right fun _ => ?_
  rw [beq_iff_eq, eq_comm]

/-- No step gives a volume a second entry. -/
theorem StepEffect.nodup_volumes {s s' : LockTable} {a : Step} (heffect : StepEffect s a s')
    (hs : s.volumes.Nodup) : s'.volumes.Nodup := by
  cases heffect with
  | taken live => exact hs
  | created new => exact hs
  | kept asked behind => exact hs
  | @joined h v fresh =>
    rw [join_eq]
    show (s.mutexOf v).2.volumes.Nodup
    unfold mutexOf
    cases he : s.entry? v with
    | some m => exact hs
    | none =>
      have hnew : v ∉ s.volumes := by
        rw [mem_volumes_iff]
        rintro ⟨m, hm⟩
        rw [he] at hm
        cases hm
      show ((s.entries ++ [(v, s.queues.length)]).map Prod.fst).Nodup
      rw [List.map_append]
      refine List.nodup_append.2 ⟨hs, List.nodup_singleton v, fun u hu w hw huw => ?_⟩
      have hwv : w = v := List.mem_singleton.1 hw
      rw [huw, hwv] at hu
      exact hnew hu
  | acquired waiting front => exact hs
  | missing none => exact hs
  | discarded fresh => exact hs
  | cancelled waiting => exact hs
  | @released h v m held =>
    show ((s.leave h m).sweep v).volumes.Nodup
    unfold sweep
    cases entry? (s.leave h m) v with
    | none => exact hs
    | some n =>
      dsimp only
      split
      · exact (List.filter_sublist.map Prod.fst).nodup hs
      · exact hs

theorem nodup_volumes_run (steps : List Step) : (empty.run steps).volumes.Nodup := by
  induction steps using List.reverseRecOn with
  | nil => exact List.nodup_nil
  | append_singleton steps a ih =>
    rw [run_concat]
    exact (step_effect _ a).nodup_volumes ih

/-- There is one entry for each volume that has one. -/
theorem inUse_eq_ncard {s : LockTable} (hs : s.volumes.Nodup) :
    s.inUse = {v | s.Entered v}.ncard := by
  have hset : {v | s.Entered v} = (s.volumes.toFinset : Set String) := by
    ext v
    simp [mem_volumes_iff]
  rw [hset, Set.ncard_coe_finset, List.toFinset_card_of_nodup hs]
  unfold inUse volumes
  rw [List.length_map]

theorem finite_entered (s : LockTable) : {v | s.Entered v}.Finite :=
  s.volumes.finite_toSet.subset fun _ hv => mem_volumes_iff.2 hv

/-- Every entry is accounted for. The table is the one after these steps. -/
structure Accounted (steps : List Step) (s : LockTable) : Prop where
  /-- The volumes with an entry are those in flight and those abandoned. -/
  entered : ∀ v, s.Entered v ↔ s.InFlight v ∨ Abandoned steps v
  /-- No volume is both, and none has two entries. -/
  count : s.inUse = {v | s.InFlight v}.ncard + {v | Abandoned steps v}.ncard
  /-- There are as many entries as volumes in flight exactly if no volume is abandoned. -/
  exact : s.inUse = {v | s.InFlight v}.ncard ↔ ∀ v, ¬ Abandoned steps v
  /-- When no handle is left, there is no entry exactly if no volume is abandoned. -/
  cleared : s.handles = [] → (s.inUse = 0 ↔ ∀ v, ¬ Abandoned steps v)

/-- **Whatever steps were taken, every entry is accounted for.** -/
theorem accounted_run (steps : List Step) : Accounted steps (empty.run steps) := by
  have hunion : {v | (empty.run steps).Entered v} =
      {v | (empty.run steps).InFlight v} ∪ {v | Abandoned steps v} := by
    ext v
    exact entered_run_iff steps v
  have hfinite := finite_entered (empty.run steps)
  rw [hunion, Set.finite_union] at hfinite
  have hapart : Disjoint {v | (empty.run steps).InFlight v} {v | Abandoned steps v} :=
    Set.disjoint_left.2 fun v hv ha => ha.not_inFlight hv
  have hcount : (empty.run steps).inUse =
      {v | (empty.run steps).InFlight v}.ncard + {v | Abandoned steps v}.ncard := by
    rw [inUse_eq_ncard (nodup_volumes_run steps), hunion,
      Set.ncard_union_eq hapart hfinite.1 hfinite.2]
  have hexact : (empty.run steps).inUse = {v | (empty.run steps).InFlight v}.ncard ↔
      ∀ v, ¬ Abandoned steps v := by
    rw [hcount, Nat.add_eq_left, Set.ncard_eq_zero hfinite.2, Set.eq_empty_iff_forall_notMem]
    exact Iff.rfl
  refine ⟨entered_run_iff steps, hcount, hexact, fun hnil => ?_⟩
  have hnone : {v | (empty.run steps).InFlight v} = ∅ :=
    Set.eq_empty_of_forall_notMem fun v hv => not_inFlight_of_handles hnil hv
  rw [← hexact, hnone, Set.ncard_empty]

/-- One handle has the lock and another one waits; the first one is dropped, and then the other one
    before it was polled. -/
def abandonedSteps : List Step :=
  [.create "a" "v", .create "b" "v", .poll "a", .poll "b", .drop "a", .drop "b"]

/-- **An entry may stay behind**: no handle is left and no volume in flight, but one entry. -/
theorem inUse_abandonedSteps :
    (empty.run abandonedSteps).handles = [] ∧ (empty.run abandonedSteps).inUse = 1 ∧
      {v | (empty.run abandonedSteps).InFlight v}.ncard = 0 := by
  have hnil : (empty.run abandonedSteps).handles = [] := by decide
  have hnone : {v | (empty.run abandonedSteps).InFlight v} = ∅ :=
    Set.eq_empty_of_forall_notMem fun v hv => not_inFlight_of_handles hnil hv
  exact ⟨hnil, by decide, by rw [hnone, Set.ncard_empty]⟩

end VolumeNode.LockTable
