import VolumeNode.Proofs.Decision

/-!
# Taking a volume off a target that may refuse

The number of unmounts is fixed when the mount table is read, and each of them may fail.

* `ClearsTarget` tells in which cases the directory is asked for and the call succeeds, beside the
  course that the call takes (`Clearing.clears`).
* Over a table in memory that refuses nothing, a target without other mounts is cleared and the rest
  of the table stays as it is (`Call.mounts_unpublish_of_owned`).
* **`Call.unpublish_clears`**: both hold of every call that passes its checks.
-/

namespace VolumeNode

variable {σ : Type}

/-! ## 1. Courses -/

/-- What a call does to a target that a device is mounted at `k` times. -/
structure ClearsTarget (m : MountSystem σ) (t : FileTree) (target : String) (k : Nat) (s : σ)
    (effects : List Action) (outcome : Except Refusal Unit) (w' : World σ) : Prop where
  course : Clearing m t target k s effects outcome w'
  /-- The directory is never asked for while an unmount is still to succeed. -/
  removal : .removeDirectory target ∈ effects ↔ k ≠ 0 ∧ ∃ s', Unmounts m t target k s s'
  success : outcome = .ok () ↔
    k = 0 ∨ (∃ s', Unmounts m t target k s s') ∧ ∃ t', t.removeDirectory target = .ok t'
  failure : ∀ e, outcome = .error e → e.code = .internal

section Clearing

variable {m : MountSystem σ} {t : FileTree} {target : String} {k : Nat} {s : σ}
  {effects : List Action} {outcome : Except Refusal Unit} {w' : World σ}

theorem Clearing.removal (h : Clearing m t target k s effects outcome w') :
    .removeDirectory target ∈ effects ↔ k ≠ 0 ∧ ∃ s', Unmounts m t target k s s' := by
  cases h with
  | absent none => simp [none]
  | stopped early before fails =>
    have hno := Unmounts.not_of_failed early before fails
    simp [hno]
  | kept some all refused =>
    simp only [List.mem_append, List.mem_singleton, or_true, true_iff]
    exact ⟨some, _, all⟩
  | removed some all granted =>
    simp only [List.mem_append, List.mem_singleton, or_true, true_iff]
    exact ⟨some, _, all⟩

theorem Clearing.success (h : Clearing m t target k s effects outcome w') :
    outcome = .ok () ↔
      k = 0 ∨ (∃ s', Unmounts m t target k s s') ∧ ∃ t', t.removeDirectory target = .ok t' := by
  cases h with
  | absent none => simp [none]
  | stopped early before fails =>
    have hno := Unmounts.not_of_failed early before fails
    have hk : k ≠ 0 := Nat.ne_zero_of_lt early
    simp [hno, hk]
  | kept some all refused => simp [some, refused]
  | removed some all granted =>
    simp only [true_iff]
    exact .inr ⟨⟨_, all⟩, _, granted⟩

/-- A target that is not cleared is a failure of the machine. -/
theorem Clearing.failure (h : Clearing m t target k s effects outcome w') (e : Refusal)
    (he : outcome = .error e) : e.code = .internal := by
  cases h with
  | absent none => cases he
  | stopped early before fails =>
    cases he
    rfl
  | kept some all refused =>
    cases he
    rfl
  | removed some all granted => cases he

theorem Clearing.clears (h : Clearing m t target k s effects outcome w') :
    ClearsTarget m t target k s effects outcome w' :=
  ⟨h, h.removal, h.success, h.failure⟩

end Clearing

/-! ## 2. Calls -/

namespace Call

/-- A call that finds the device, a plain target and a table clears the target. -/
theorem unpublish_course {m : MountSystem σ} {naming : DeviceNaming} {r : UnpublishRequest}
    {w : World σ} {d : Device} {rs : List MountEntry} {s : σ}
    (device : naming.device w.tree r.volume = .ok d) (plain : PlainPath.IsPlain r.target)
    (listed : m.entries w.tree w.mounts = (.ok rs, s)) :
    Clearing m w.tree r.target
      (rs.countP fun e => e.path == r.target && (e.source == d.node || e.device == d.node)) s
      ((unpublish r).effects m naming w) ((unpublish r).run m naming w).1
      ((unpublish r).run m naming w).2 := by
  have hplain : PlainPath.check r.target = .ok () := (PlainPath.check_eq_ok_iff _).2 plain
  have hmet : AllMet (r.requirements m naming w) := by
    refine allMet_append.2 ⟨(obeys_device naming w.tree r.volume).allMet device, ?_⟩
    refine allMet_append.2 ⟨?_, allMet_cons.2 ⟨⟨rs, s, listed⟩, nofun⟩⟩
    exact (obeys_targetCheck r.target).allMet (Handler.targetCheck_of_plain hplain)
  have hdecided := (Handler.decides_unpublish m naming w r).decidedBy.all hmet
  obtain ⟨d', rs', s', device', listed', hclearing⟩ := hdecided
  cases device.symm.trans device'
  cases listed.symm.trans listed'
  exact hclearing

section Memory

variable {naming : DeviceNaming} {r : UnpublishRequest} {w : MemoryWorld} {d : Device}

/-- Where no unmount is refused, a target is unmounted as often as the device is mounted there. -/
theorem mounts_unpublish (h : UnpublishReady naming r w d)
    (hallowed : MountRequest.unmount ∉ w.mounts.refused) :
    ((unpublish r).run MemoryTable.system naming w).2.mounts =
      w.mounts.unmountTimes r.target (w.mounts.countAt r.target d) := by
  by_cases hzero : w.mounts.countAt r.target d = 0
  · rw [run_unpublish_of_none h hzero, hzero]
    rfl
  · cases hremove : w.tree.removeDirectory r.target with
    | ok tree => rw [run_unpublish_of_removed h hzero hallowed hremove]
    | error e => rw [run_unpublish_of_stuck h hzero hallowed hremove]

/-- If everything at a target is a mount of the device, the target is cleared and the rest of the
    table keeps its order. -/
theorem mounts_unpublish_of_owned (device : naming.device w.tree r.volume = .ok d)
    (plain : PlainPath.IsPlain r.target) (allowed : w.mounts.refused = [])
    (owned : ∀ e ∈ w.mounts.entries, e.path = r.target → e.source = d.node ∨ e.device = d.node) :
    ((unpublish r).run MemoryTable.system naming w).2.mounts =
      { w.mounts with entries := w.mounts.entries.filter fun e =>
          !(e.path == r.target && (e.source == d.node || e.device == d.node)) } := by
  have hplain : PlainPath.check r.target = .ok () := (PlainPath.check_eq_ok_iff _).2 plain
  have hread : w.mounts.read = .ok w.mounts.entries :=
    MemoryTable.read_eq_ok_iff.2 ⟨by simp [allowed], rfl⟩
  have hready : UnpublishReady naming r w d :=
    ⟨device, Handler.targetCheck_of_plain hplain, hread⟩
  have hshown : ∀ e ∈ w.mounts.entries, e.path = r.target → Handler.shows e d = true := by
    intro e he hpath
    simpa [Handler.shows] using owned e he hpath
  have hall : w.mounts.countAt r.target d =
      (w.mounts.entries.filter (·.path == r.target)).length := by
    refine List.countP_eq_length.2 fun e he => ?_
    obtain ⟨hmem, hpath⟩ := List.mem_filter.1 he
    exact hshown e hmem (beq_iff_eq.1 hpath)
  have hpopped := MemoryTable.popTimes_split r.target [] w.mounts.entries
  have hkept : (w.mounts.entries.filter (·.path != r.target)) =
      w.mounts.entries.filter fun e =>
        !(e.path == r.target && (e.source == d.node || e.device == d.node)) := by
    refine List.filter_congr fun e he => ?_
    by_cases hpath : e.path = r.target
    · have hshows : (e.source == d.node || e.device == d.node) = true := hshown e he hpath
      rw [hshows, Bool.and_true]
      rfl
    · have hother : (e.path == r.target) = false := beq_eq_false_iff_ne.2 hpath
      rw [hother, Bool.false_and]
      exact congrArg not hother
  rw [mounts_unpublish hready (by simp [allowed]), hall]
  unfold MemoryTable.unmountTimes
  rw [show MemoryTable.popTimes r.target _ w.mounts.entries = _ from hpopped, List.nil_append,
    hkept]

end Memory

/-- **Taking a volume off a target unmounts every mount of its device there, up to the first unmount
    that fails, and removes the directory only behind all of them.** In memory, where nothing is
    refused and nothing else is mounted there, exactly these mounts are gone. -/
theorem unpublish_clears :
    (∀ (σ : Type) (m : MountSystem σ) (naming : DeviceNaming) (r : UnpublishRequest) (w : World σ)
        (d : Device) (rs : List MountEntry) (s : σ),
        naming.device w.tree r.volume = .ok d → PlainPath.IsPlain r.target →
        m.entries w.tree w.mounts = (.ok rs, s) →
        ClearsTarget m w.tree r.target
          (rs.countP fun e => e.path == r.target && (e.source == d.node || e.device == d.node)) s
          ((unpublish r).effects m naming w) ((unpublish r).run m naming w).1
          ((unpublish r).run m naming w).2) ∧
      ∀ (naming : DeviceNaming) (r : UnpublishRequest) (w : MemoryWorld) (d : Device),
        naming.device w.tree r.volume = .ok d → PlainPath.IsPlain r.target →
        w.mounts.refused = [] →
        (∀ e ∈ w.mounts.entries, e.path = r.target → e.source = d.node ∨ e.device = d.node) →
        ((unpublish r).run MemoryTable.system naming w).2.mounts =
          { w.mounts with entries := w.mounts.entries.filter fun e =>
              !(e.path == r.target && (e.source == d.node || e.device == d.node)) } := by
  refine ⟨fun σ m naming r w d rs s device plain listed => ?_, fun naming r w d => ?_⟩
  · exact (unpublish_course device plain listed).clears
  · exact mounts_unpublish_of_owned

/-- The first volume of the small machine mounted at `/t`. -/
def firstAtTarget : MountEntry := ⟨"/d/m", "/d/m", "/t", "ext4", ["rw"]⟩

/-- A mount system that shows one table all the time, and answers unmounts by a script. -/
def scriptedUnmounts (rs : List MountEntry) : MountSystem (List (Except MountFailure Unit)) where
  entries _ script := (.ok rs, script)
  mount _ _ _ _ _ script := (.ok (), script)
  mountFormatted _ _ _ _ _ script := (.ok (), script)
  bindTo _ _ _ _ script := (.ok (), script)
  unmount _ _ script := (script.headD (.ok ()), script.tail)

/-- Of two mounts the second one stays busy; in memory both are gone. -/
theorem unpublish_clears_twoStacked :
    ClearsTarget (scriptedUnmounts [firstAtTarget, firstAtTarget]) smallTree "/t" 2
        [.ok (), .error (.toolFailed "umount" "target is busy")]
        [.unmount "/t", .unmount "/t"]
        (.error (.unmountFailed "/t" (.toolFailed "umount" "target is busy"))) ⟨smallTree, []⟩ ∧
      ((unpublish ⟨"a", "/t"⟩).run MemoryTable.system smallNaming
          ⟨smallTree, ⟨[firstAtTarget, firstAtTarget], [], [], []⟩⟩).2.mounts = .empty := by
  have hplain : PlainPath.IsPlain "/t" := (PlainPath.check_eq_ok_iff "/t").1 (by decide)
  constructor
  · exact unpublish_clears.1 _ (scriptedUnmounts [firstAtTarget, firstAtTarget]) smallNaming
      ⟨"a", "/t"⟩ ⟨smallTree, [.ok (), .error (.toolFailed "umount" "target is busy")]⟩ _ _ _
      device_smallTree_a hplain rfl
  · exact unpublish_clears.2 smallNaming ⟨"a", "/t"⟩
      ⟨smallTree, ⟨[firstAtTarget, firstAtTarget], [], [], []⟩⟩ _ device_smallTree_a hplain rfl
      (by decide)

end Call

end VolumeNode
