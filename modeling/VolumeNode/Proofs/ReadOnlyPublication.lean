import VolumeNode.Proofs.Decision
import VolumeNode.Proofs.Exposure
import VolumeNode.Proofs.FileTree.Removal
import VolumeNode.Proofs.Footprint

/-!
# Publishing for reading only

What it means for later calls that a volume was published for reading only, over a table in memory.

* `Unpublished` says that a volume is staged and that nothing is mounted at the target, wherever
  else the volume is published.
* `ReadsLike` is the entry that a publication for reading only adds: it shows what the staging
  directory shows, with `ro` whatever flags were asked for.
* **`Call.publish_readOnly`**: it is added, the same call again finds it, and a call that asks for
  writing is refused because of it. The latter two change nothing.
-/

namespace VolumeNode

/-! ## 1. Targets -/

namespace Handler

variable {t t' : FileTree} {path : String}

/-- A target that is there is left alone. -/
theorem makeTarget?_again (h : makeTarget? t path = .ok t') : makeTarget? t' path = .ok t' := by
  rcases FileTree.addsDirectory_of_makeTarget? h with rfl | hadds
  · exact h
  · obtain ⟨l, name, hslot, _, hfree, rfl, _⟩ := hadds.place
    have hslot' := FileTree.slotOf_grow [(l ++ [name], .directory targetMode)] hslot
    have hnew : (t.insert (l ++ [name]) (.directory targetMode)).get? (l ++ [name]) =
        some (.directory targetMode) := by
      show (t.grow [_]).get? _ = _
      rw [FileTree.get?_grow, hfree, Option.none_or]
      simp
    have hthere := FileTree.lstat_eq_ok_iff.2
      ⟨_, FileTree.locate_of_directory hslot' hnew false, hnew⟩
    unfold makeTarget?
    rw [show (t.insert (l ++ [name]) (.directory targetMode)).lstat path = _ from hthere]

/-- A tree with a target made has what was there before. -/
theorem exists_grow_of_makeTarget? (h : makeTarget? t path = .ok t') : ∃ new, t' = t.grow new := by
  rcases FileTree.addsDirectory_of_makeTarget? h with rfl | hadds
  · exact ⟨[], (FileTree.grow_nil _).symm⟩
  · obtain ⟨l, name, _, _, _, rfl, _⟩ := hadds.place
    exact ⟨[_], rfl⟩

/-- A target is there, or it can be made. -/
def Placeable (t : FileTree) (path : String) : Prop :=
  (∃ e, t.lstat path = .ok e) ∨ ∃ t', t.makeDirectory path targetMode = .ok t'

theorem exists_makeTarget? (h : Placeable t path) : ∃ t', makeTarget? t path = .ok t' := by
  rcases h with ⟨e, hthere⟩ | ⟨t', hmake⟩
  · unfold makeTarget?
    rw [hthere]
    exact ⟨t, rfl⟩
  · obtain ⟨l, name, hslot, hfree, _⟩ := FileTree.makeDirectory_eq_ok_iff.1 hmake
    exact ⟨_, makeTarget?_of_vacant hslot hfree⟩

end Handler

/-! ## 2. Entries -/

/-- An entry shows at a path what another one shows, for reading only. -/
structure ReadsLike (m : MountEntry) (path : String) (e : MountEntry) : Prop where
  path : e.path = path
  device : e.device = m.device
  source : e.source = m.source
  fsType : e.fsType = m.fsType
  ro : e.carries "ro" = true
  notRw : e.carries "rw" = false

theorem ReadsLike.mountsNode {m e : MountEntry} {path : String} (h : ReadsLike m path e)
    (node : String) : e.mountsNode node = m.mountsNode node := by
  unfold MountEntry.mountsNode
  rw [h.device, h.source]

/-- The entry answers which access it gives. -/
theorem ReadsLike.carries_accessOption {m e : MountEntry} {path : String} (h : ReadsLike m path e)
    (readOnly : Bool) : e.carries (accessOption readOnly) = readOnly := by
  cases readOnly with
  | true => exact h.ro
  | false => exact h.notRw

namespace MemoryTable

variable {s : MemoryTable} {source target node : String} {m e : MountEntry}

/-- A bind shows what is on top of its source. -/
theorem bindEntry_of_top (h : s.top? source = some m) (target : String) (flags : List String) :
    s.bindEntry source target flags = ⟨m.device, m.source, target, m.fsType, optionsOf flags⟩ := by
  unfold bindEntry
  rw [show (s.entriesAt source).getLast? = some m from h]

/-- An `ro` behind all flags decides, whatever they are. -/
theorem readsLike_bindEntry (h : s.top? source = some m) (target : String) (flags : List String) :
    ReadsLike m target (s.bindEntry source target (flags ++ ["ro"])) := by
  have hro : "ro" ∈ flags ++ ["ro"] := List.mem_append_right _ (List.mem_singleton_self _)
  rw [bindEntry_of_top h]
  refine ⟨rfl, rfl, rfl, rfl, ?_, ?_⟩
  · rw [MountEntry.carries_iff]
    exact (ro_mem_optionsOf _).2 hro
  · rw [← Bool.not_eq_true, MountEntry.carries_iff]
    exact fun hrw => (rw_mem_optionsOf _).1 hrw hro

/-- At a free target there is no mount of any device. -/
theorem path_ne_of_free (h : s.entriesAt target = []) :
    ∀ x ∈ s.entriesOf node, x.path ≠ target := by
  intro x hx hpath
  exact List.filter_eq_nil_iff.1 h x (List.mem_filter.1 hx).1 (beq_iff_eq.2 hpath)

/-- What is on top of a path is mounted there. -/
theorem mem_of_top? (h : s.top? source = some m) : m ∈ s.entries ∧ m.path = source := by
  obtain ⟨hmem, hpath⟩ := List.mem_filter.1 (List.mem_of_getLast? h)
  exact ⟨hmem, beq_iff_eq.1 hpath⟩

/-- The first mount at a target is found there, if the device has another one. -/
theorem published?_insert (hfree : s.entriesAt target = []) (hne : s.entriesOf node ≠ [])
    (hnode : e.mountsNode node = true) (hpath : e.path = target) :
    Handler.published? ((s.insert e).entriesOf node) target = some e := by
  have hlong := List.length_pos_iff.2 hne
  have hnone : (s.entriesOf node).find? (·.path == target) = none := by
    rw [List.find?_eq_none]
    intro x hx
    simpa using path_ne_of_free hfree x hx
  rw [entriesOf_insert, if_pos hnode, published?_eq_some_iff]
  constructor
  · rw [List.length_append, List.length_singleton]
    omega
  · rw [List.find?_append, hnone, Option.none_or]
    simp [hpath]

end MemoryTable

/-! ## 3. Calls -/

/-- A volume is staged, and can be published at a target where nothing is mounted. -/
structure Unpublished (naming : DeviceNaming) (r : PublishRequest) (w : MemoryWorld) (d : Device)
    (m : MountEntry) : Prop where
  allowed : w.mounts.refused = []
  device : naming.device w.tree r.volume = .ok d
  staging : Handler.directoryCheck w.tree r.staging = .ok ()
  /-- The staging directory shows the volume. -/
  top : w.mounts.top? r.staging = some m
  shows : m.mountsNode d.node = true
  target : PlainPath.IsPlain r.target
  place : Handler.Placeable w.tree r.target
  free : w.mounts.entriesAt r.target = []
  capability : ∃ plan, MountPlan.ofRequest r.capability = .ok plan

section Calls

variable {naming : DeviceNaming} {r : PublishRequest} {w : MemoryWorld} {d : Device}
  {m e : MountEntry} {tree : FileTree}

theorem Unpublished.mounted (h : Unpublished naming r w d m) : w.mounts.entriesOf d.node ≠ [] :=
  List.ne_nil_of_mem (List.mem_filter.2 ⟨(MemoryTable.mem_of_top? h.top).1, h.shows⟩)

/-- A call passes its checks, in the tree before its target was made and in the one after. -/
theorem Unpublished.ready (h : Unpublished naming r w d m) {t : FileTree}
    (ht : ∃ new, t = w.tree.grow new) (hmade : Handler.makeTarget? t r.target = .ok tree)
    {plan : MountPlan} (hplan : MountPlan.ofRequest r.capability = .ok plan) {s : MemoryTable}
    (hs : s.refused = []) (readOnly : Bool) :
    PublishReady naming { r with readOnly } ⟨t, s⟩ d plan tree where
  device := by
    obtain ⟨new, rfl⟩ := ht
    exact FileTree.device_grow new h.device
  target := Handler.targetCheck_of_plain ((PlainPath.check_eq_ok_iff _).2 h.target)
  made := hmade
  directory := by
    obtain ⟨new, rfl⟩ := ht
    obtain ⟨new', rfl⟩ := Handler.exists_grow_of_makeTarget? hmade
    exact Handler.directoryCheck_grow (Handler.directoryCheck_grow h.staging new) new'
  plan := hplan
  readable := MemoryTable.read_eq_ok_iff.2 ⟨by simp [hs], rfl⟩

/-- The first call binds the staging directory. -/
theorem Unpublished.run (h : Unpublished naming r w d m) (hreads : r.readOnly = true)
    (hmade : Handler.makeTarget? w.tree r.target = .ok tree) {plan : MountPlan}
    (hplan : MountPlan.ofRequest r.capability = .ok plan) :
    (Call.publish r).run MemoryTable.system naming w =
      (.ok (), ⟨tree, w.mounts.insert
        (w.mounts.bindEntry r.staging r.target (plan.flags ++ ["ro"]))⟩) := by
  have hready : PublishReady naming r w d plan tree :=
    h.ready ⟨[], (FileTree.grow_nil _).symm⟩ hmade hplan h.allowed r.readOnly
  have hflags : Handler.publishFlags plan.flags r.readOnly = plan.flags ++ ["ro"] := if_pos hreads
  have hnone : Handler.published? (w.mounts.entriesOf d.node) r.target = none :=
    Handler.published?_eq_none (MemoryTable.path_ne_of_free h.free)
  rw [run_publish_of_bind hready hnone h.mounted,
    MemoryTable.bindTo_of_allowed (by simp [h.allowed]), hflags]
  rfl

/-- A later call finds the entry at the target, and compares its access. -/
theorem Unpublished.run_after (h : Unpublished naming r w d m)
    (hmade : Handler.makeTarget? w.tree r.target = .ok tree) (he : ReadsLike m r.target e)
    (readOnly : Bool) :
    (Call.publish { r with readOnly }).run MemoryTable.system naming ⟨tree, w.mounts.insert e⟩ =
      (if readOnly then .ok () else .error (.publishedOtherwise r.volume r.target),
        ⟨tree, w.mounts.insert e⟩) := by
  obtain ⟨plan, hplan⟩ := h.capability
  have hready : PublishReady naming { r with readOnly } ⟨tree, w.mounts.insert e⟩ d plan tree :=
    h.ready (Handler.exists_grow_of_makeTarget? hmade) (Handler.makeTarget?_again hmade) hplan
      (show (w.mounts.insert e).refused = [] from h.allowed) readOnly
  have hshown := MemoryTable.published?_insert h.free h.mounted
    ((he.mountsNode d.node).trans h.shows) he.path
  rw [run_publish_of_published hready hshown]
  show (if e.carries (accessOption readOnly) then _ else _, _) = _
  rw [he.carries_accessOption]

/-- **To publish for reading only is binding.** The call adds one entry, which shows what the
    staging directory shows and carries `ro`, not `rw`, whatever flags the request has. The same
    call again succeeds and changes nothing. With writing asked for it is refused, and changes
    nothing. -/
theorem Call.publish_readOnly (h : Unpublished naming r w d m) (hreads : r.readOnly = true) :
    ∃ tree e, ReadsLike m r.target e ∧ Handler.makeTarget? w.tree r.target = .ok tree ∧
      (publish r).run MemoryTable.system naming w =
        (.ok (), ⟨tree, { w.mounts with entries := w.mounts.entries ++ [e] }⟩) ∧
      (publish r).run MemoryTable.system naming
          ⟨tree, { w.mounts with entries := w.mounts.entries ++ [e] }⟩ =
        (.ok (), ⟨tree, { w.mounts with entries := w.mounts.entries ++ [e] }⟩) ∧
      ∃ cause, cause.code = .alreadyExists ∧
        (publish { r with readOnly := false }).run MemoryTable.system naming
            ⟨tree, { w.mounts with entries := w.mounts.entries ++ [e] }⟩ =
          (.error cause, ⟨tree, { w.mounts with entries := w.mounts.entries ++ [e] }⟩) := by
  obtain ⟨tree, hmade⟩ := Handler.exists_makeTarget? h.place
  obtain ⟨plan, hplan⟩ := h.capability
  have he := MemoryTable.readsLike_bindEntry h.top r.target plan.flags
  have hsame : { r with readOnly := true } = r := by rw [← hreads]
  have hagain := h.run_after hmade he true
  rw [hsame] at hagain
  exact ⟨tree, _, he, hmade, h.run hreads hmade hplan, hagain, _, rfl,
    h.run_after hmade he false⟩

end Calls

/-- The first volume of the small machine is staged at `/s` and published for writing at `/t`. -/
def writtenWorld : MemoryWorld :=
  ⟨smallTree, ⟨[⟨"/d/m", "/d/m", "/s", "ext4", ["rw"]⟩, ⟨"/d/m", "/d/m", "/t", "ext4", ["rw"]⟩],
    [], [], []⟩⟩

/-- It is published for reading only at `/p`, with flags for both. -/
def mixedRequest : PublishRequest := ⟨"a", "/s", "/p", writer ["ro", "noexec", "rw"], true⟩

theorem unpublished_writtenWorld :
    Unpublished smallNaming mixedRequest writtenWorld ⟨"/l/xa", "/d/m", "xa"⟩
      ⟨"/d/m", "/d/m", "/s", "ext4", ["rw"]⟩ where
  allowed := rfl
  device := device_smallTree_a
  staging := by decide +kernel
  top := by decide
  shows := by decide
  target := (PlainPath.check_eq_ok_iff "/p").1 (by decide)
  place := .inr ⟨smallTree.insert [[0x70]] (.directory 0o750), by decide +kernel⟩
  free := by decide
  capability := ⟨⟨"ext4", ["ro", "noexec", "rw"], false⟩, by decide +kernel⟩

/-- The mount for writing elsewhere does not matter, and neither do the flags. -/
theorem Call.publish_readOnly_writtenWorld :
    ∃ tree e, ReadsLike ⟨"/d/m", "/d/m", "/s", "ext4", ["rw"]⟩ "/p" e ∧
      (publish mixedRequest).run MemoryTable.system smallNaming writtenWorld =
        (.ok (), ⟨tree, ⟨writtenWorld.mounts.entries ++ [e], [], [], []⟩⟩) ∧
      ∃ cause, cause.code = .alreadyExists ∧
        ((publish { mixedRequest with readOnly := false }).run MemoryTable.system smallNaming
          ⟨tree, ⟨writtenWorld.mounts.entries ++ [e], [], [], []⟩⟩).1 = .error cause := by
  obtain ⟨tree, e, he, _, hfirst, _, cause, hcode, hconflict⟩ :=
    publish_readOnly unpublished_writtenWorld rfl
  exact ⟨tree, e, he, hfirst, cause, hcode, congrArg Prod.fst hconflict⟩

end VolumeNode
