import VolumeNode.Proofs.Isolation
import VolumeNode.Proofs.Lifecycle

/-!
# What a published volume shows

A path shows the topmost of its mounts. A volume is published to have the target show it, for
reading only where that was asked for.

* `Exposes`: a path shows a device.
* `Backed` is what a call to publish takes for granted: that the target shows the volume if it finds
  the volume published there, or else that the staging path shows it. The call looks at neither. It
  asks whether the device has mounts anywhere, and binds what lies on top at the staging path.
* **`publish_exposes_iff`**: a call that succeeds makes the target show the volume exactly if it was
  backed.
* `Orderly.publish_exposes`: all calls are while they keep to the paths of their volumes.
* `publish_not_exposing`: a call that names the staging path of another volume succeeds, and what
  the target shows then is the other volume.
-/

namespace VolumeNode

/-! ## 1. The top of a path -/

namespace MemoryTable

/-- The topmost entry at a path. -/
def top? (s : MemoryTable) (path : String) : Option MountEntry :=
  (s.entriesAt path).getLast?

/-- A path shows the device with this node, for reading only if so asked. -/
def Exposes (s : MemoryTable) (path node : String) (readOnly : Bool) : Prop :=
  ∃ m ∈ s.top? path, m.mountsNode node = true ∧ (readOnly = true → m.carries "ro" = true)

instance (s : MemoryTable) (path node : String) (readOnly : Bool) :
    Decidable (s.Exposes path node readOnly) :=
  inferInstanceAs (Decidable (∃ m ∈ s.top? path, _ ∧ _))

theorem mem_top?_iff (s : MemoryTable) (path : String) (m : MountEntry) :
    m ∈ s.top? path ↔ m ∈ (s.entriesAt path).rtake 1 := by
  unfold top?
  rcases List.eq_nil_or_concat (s.entriesAt path) with hat | ⟨below, top, hat⟩
  · rw [hat]
    simp
  · rw [hat, List.concat_eq_append, List.getLast?_concat, List.rtake_concat_succ]
    simp [eq_comm]

/-- What was mounted last is on top of its path. -/
theorem top?_insert (s : MemoryTable) (m : MountEntry) : (s.insert m).top? m.path = some m := by
  unfold top? entriesAt
  rw [entries_insert, List.filter_append]
  simp

/-- The only entry at a path is on top. -/
theorem top?_of_unique {s : MemoryTable} {path : String} {m : MountEntry}
    (hm : m ∈ s.entriesAt path) (hone : (s.entriesAt path).length ≤ 1) : s.top? path = some m := by
  obtain ⟨x, hx⟩ : ∃ x, s.entriesAt path = [x] :=
    List.length_eq_one_iff.1 (Nat.le_antisymm hone (List.length_pos_of_mem hm))
  unfold top?
  rw [hx] at hm ⊢
  rw [List.mem_singleton.1 hm]
  rfl

/-- A bind shows at its target what its source shows; its flags say how. -/
theorem exposes_insert_bindEntry_iff {node : String} (hnode : node.toList.head? = some '/')
    (s : MemoryTable) (source target : String) (flags : List String) (readOnly : Bool) :
    (s.insert (s.bindEntry source target (Handler.publishFlags flags readOnly))).Exposes target node
        readOnly ↔ s.Exposes source node false := by
  have htop := s.top?_insert (s.bindEntry source target (Handler.publishFlags flags readOnly))
  rw [path_bindEntry] at htop
  have hcarries : readOnly = true →
      (s.bindEntry source target (Handler.publishFlags flags readOnly)).carries "ro" = true := by
    rintro rfl
    rw [MountEntry.carries_iff, options_bindEntry, ro_mem_optionsOf]
    exact List.mem_append_right _ (List.mem_singleton_self _)
  have hbind := mountsNode_bindEntry hnode s source target (Handler.publishFlags flags readOnly)
  unfold Exposes
  rw [htop]
  constructor
  · rintro ⟨m, hm, hmounts, _⟩
    obtain rfl := Option.some.inj hm
    obtain ⟨x, hx, hxnode⟩ := hbind.1 hmounts
    exact ⟨x, (s.mem_top?_iff source x).2 hx, hxnode, fun h => by cases h⟩
  · rintro ⟨x, hx, hxnode, _⟩
    exact ⟨_, rfl, hbind.2 ⟨x, (s.mem_top?_iff source x).1 hx, hxnode⟩, hcarries⟩

end MemoryTable

/-! ## 2. Publishing -/

/-- What shows a device published is a mount of it at the target. -/
theorem Handler.mem_of_published? {mounts : List MountEntry} {target : String} {m : MountEntry}
    (h : Handler.published? mounts target = some m) : m ∈ mounts ∧ m.path = target := by
  unfold Handler.published? at h
  split at h
  · exact ⟨List.mem_of_find?_eq_some h, by simpa using List.find?_some h⟩
  · cases h

/-- What a call to publish takes for granted. -/
def PublishRequest.Backed (r : PublishRequest) (s : MemoryTable) (d : Device) : Prop :=
  match Handler.published? (s.entriesOf d.node) r.target with
  | some _ => s.Exposes r.target d.node r.readOnly
  | none => s.Exposes r.staging d.node false

instance (r : PublishRequest) (s : MemoryTable) (d : Device) : Decidable (r.Backed s d) := by
  unfold PublishRequest.Backed
  split <;> infer_instance

variable {naming : DeviceNaming} {r : PublishRequest} {w w' : MemoryWorld}

theorem PublishEffect.exposes_iff (h : PublishEffect naming r w (.ok ()) w') :
    ∃ d, naming.device w.tree r.volume = .ok d ∧
      (w'.mounts.Exposes r.target d.node r.readOnly ↔ r.Backed w.mounts d) := by
  cases h with
  | @present d plan tree m ready published fits =>
    refine ⟨d, ready.device, ?_⟩
    unfold PublishRequest.Backed
    rw [published]
  | @bound d plan tree ready unpublished staged =>
    refine ⟨d, ready.device, ?_⟩
    unfold PublishRequest.Backed
    rw [unpublished]
    exact MemoryTable.exposes_insert_bindEntry_iff (DeviceNaming.head?_node ready.device) _ _ _ _ _

/-- **A call to publish a volume that succeeds makes the target show it exactly if it was
    backed.** -/
theorem publish_exposes_iff
    (h : (Call.publish r).run MemoryTable.system naming w = (.ok (), w')) :
    ∃ d, naming.device w.tree r.volume = .ok d ∧
      (w'.mounts.Exposes r.target d.node r.readOnly ↔ r.Backed w.mounts d) := by
  have heffect := publish_effect naming r w
  rw [h] at heffect
  exact heffect.exposes_iff

/-! ## 3. While calls keep to their paths -/

section Orderly

variable {o : Ownership} {d : Device}

/-- What is mounted at a path of an orderly table is on top there. -/
theorem Orderly.top?_path (ho : Orderly o w.mounts.entries) {m : MountEntry}
    (hm : m ∈ w.mounts.entries) : w.mounts.top? m.path = some m :=
  MemoryTable.top?_of_unique (List.mem_filter.2 ⟨hm, by simp⟩) (ho.length_filter_path_le m.path)

/-- Where a volume is published, and where it is staged, it is the only one mounted. -/
theorem Orderly.backed (ho : Orderly o w.mounts.entries) (hmay : o.May naming w (.publish r))
    (h : PublishEffect naming r w (.ok ()) w') (hd : naming.device w.tree r.volume = .ok d) :
    r.Backed w.mounts d := by
  obtain ⟨hstaging, _⟩ : r.staging = o.staging r.volume ∧ r.target ∈ o.targets r.volume :=
    hmay.allows
  have hvolume : r.volume ∈ o.volumes := hmay.volume
  have hnode : d.node = o.node r.volume := hmay.settled d hd
  unfold PublishRequest.Backed
  cases h with
  | @present d₁ plan tree m ready published fits =>
    obtain rfl : d₁ = d := Except.ok.inj (ready.device.symm.trans hd)
    obtain ⟨hmem, hpath⟩ := Handler.mem_of_published? published
    obtain ⟨hm, hmounts⟩ := List.mem_filter.1 hmem
    rw [published]
    refine ⟨m, ?_, hmounts, fun hro => ?_⟩
    · rw [← hpath]
      exact ho.top?_path hm
    · rw [hro] at fits
      exact fits
  | @bound d₁ plan tree ready unpublished staged =>
    obtain rfl : d₁ = d := Except.ok.inj (ready.device.symm.trans hd)
    obtain ⟨m, hm⟩ := List.exists_mem_of_ne_nil _ staged
    rw [hnode] at hm
    obtain ⟨hm, hown⟩ := (ho.mem_entriesOf_iff hvolume).1 hm
    obtain ⟨s, hs, hpath⟩ := ho.staged r.volume m hm hown
    have hsown : o.Owns r.volume s := ho.owns_of_path hs hvolume (hpath ▸ o.staging_mem _)
    rw [unpublished]
    refine ⟨s, ?_, ?_, fun h => by cases h⟩
    · rw [hstaging, ← hpath]
      exact ho.top?_path hs
    · rw [hnode]
      exact (hsown.mountsNode_iff _).2 rfl

/-- **While all calls keep to the paths of their volumes**, a volume that is published is shown. -/
theorem Orderly.publish_exposes (ho : Orderly o w.mounts.entries)
    (hmay : o.May naming w (.publish r))
    (h : (Call.publish r).run MemoryTable.system naming w = (.ok (), w')) :
    w'.mounts.Exposes r.target (o.node r.volume) r.readOnly := by
  have heffect := publish_effect naming r w
  rw [h] at heffect
  obtain ⟨d, hd, hiff⟩ := heffect.exposes_iff
  have hnode : d.node = o.node r.volume := hmay.settled d hd
  rw [← hnode]
  exact hiff.2 (ho.backed hmay heffect hd)

end Orderly

/-! ## 4. The staging path of another volume -/

/-- The small machine with the first volume staged at `/s` and the second one at `/t`. -/
def twoStagedWorld : MemoryWorld :=
  (Call.runAll smallNaming [.stage ⟨"a", "/s", writer []⟩, .stage ⟨"b", "/t", writer []⟩]
    smallWorld).2

/-- From its own staging path the first volume is published as asked. -/
theorem publish_exposes_twoStaged :
    ((Call.publish ⟨"a", "/s", "/p", writer [], true⟩).run MemoryTable.system smallNaming
      twoStagedWorld).2.mounts.Exposes "/p" "/d/m" true := by
  have hok : ((Call.publish ⟨"a", "/s", "/p", writer [], true⟩).run MemoryTable.system smallNaming
      twoStagedWorld).1 = .ok () := by decide +kernel
  have htree : smallNaming.device twoStagedWorld.tree "a" = .ok ⟨"/l/xa", "/d/m", "xa"⟩ := by
    decide +kernel
  obtain ⟨d, hd, hiff⟩ := publish_exposes_iff (Prod.ext hok rfl)
  rw [htree] at hd
  cases hd
  exact hiff.2 (by decide +kernel)

/-- From the staging path of the second volume it is the second one that the target shows. -/
theorem publish_not_exposing :
    ¬ ∀ (naming : DeviceNaming) (r : PublishRequest) (w w' : MemoryWorld) (d : Device),
        (Call.publish r).run MemoryTable.system naming w = (.ok (), w') →
        naming.device w.tree r.volume = .ok d →
        w'.mounts.Exposes r.target d.node r.readOnly := by
  intro h
  have hok : ((Call.publish ⟨"a", "/t", "/p", writer [], false⟩).run MemoryTable.system smallNaming
      twoStagedWorld).1 = .ok () := by decide +kernel
  have htree : smallNaming.device twoStagedWorld.tree "a" = .ok ⟨"/l/xa", "/d/m", "xa"⟩ := by
    decide +kernel
  have hexposes := h smallNaming _ twoStagedWorld _ _ (Prod.ext hok rfl) htree
  exact absurd hexposes (by decide +kernel)

end VolumeNode
