import VolumeNode.Proofs.Mount.Acceptance
import VolumeNode.Proofs.Unpublication

/-!
# Two ways to look for a device

A volume is staged, unstaged and published by the entries that mount its device (`mountsNode`). It
is taken off a target by the entries there that show the device in their source or as their device
(`shows`).

* The two differ on entries at large. `MountEntry.Traced` says that an entry has a source of its own
  for placeholders only, and **`MountEntry.traced_iff`** that this is what it takes for the two to
  agree on every node.
* A table that was read has traced entries only (`MountTable.traced_of_read`).
* **`MountTable.matchers_agree`**: so on every table that can be read the two find the same entries,
  and as many of them at each path. What counts as published at a target can be taken off there, and
  the other way round.
-/

namespace VolumeNode

/-! ## 1. Entries -/

namespace MountEntry

/-- The source of an entry is its device, unless the device is a placeholder. -/
def Traced (e : MountEntry) : Prop :=
  e.source = e.device ∨ e.device ∈ placeholders

instance (e : MountEntry) : Decidable e.Traced :=
  inferInstanceAs (Decidable (_ ∨ _))

/-- **To mount a node and to have it for a source or a device is the same on traced entries, and on
    no others.** -/
theorem traced_iff {e : MountEntry} :
    e.Traced ↔ ∀ node, e.mountsNode node = true ↔ e.source = node ∨ e.device = node := by
  simp only [mountsNode_iff]
  constructor
  · intro h node
    constructor
    · intro hmounts
      rcases hmounts with hdevice | ⟨_, hsource⟩
      · exact .inr hdevice
      · exact .inl hsource
    · intro hnamed
      rcases hnamed with hsource | hdevice
      · rcases h with hsame | hplaceholder
        · exact .inl (hsame.symm.trans hsource)
        · exact .inr ⟨hplaceholder, hsource⟩
      · exact .inl hdevice
  · intro h
    -- the node that decides is the source
    rcases (h e.source).2 (.inl rfl) with hdevice | ⟨hplaceholder, _⟩
    · exact .inl hdevice.symm
    · exact .inr hplaceholder

/-- A filesystem whose source is another node than its device. -/
example : ¬ Traced ⟨"/dev/sda1", "/dev/sdb", "/p", "ext4", ["rw"]⟩ := by decide

theorem Traced.shows_eq {e : MountEntry} (h : e.Traced) (d : Device) :
    Handler.shows e d = e.mountsNode d.node := by
  rw [Bool.eq_iff_iff, traced_iff.1 h]
  simp [Handler.shows]

end MountEntry

/-- Among traced entries, those that show a device at a path are its mounts there. -/
theorem countP_shows_of_traced {rs : List MountEntry} (h : ∀ e ∈ rs, e.Traced) (d : Device)
    (target : String) :
    (rs.filter (·.path == target)).countP (Handler.shows · d) =
      ((rs.filter (·.mountsNode d.node)).filter (·.path == target)).length := by
  have hsame : rs.filter (Handler.shows · d) = rs.filter (·.mountsNode d.node) :=
    List.filter_congr fun e he => (h e he).shows_eq d
  rw [List.countP_eq_length_filter, List.filter_filter, ← hsame, List.filter_filter]
  simp only [Bool.and_comm]

/-! ## 2. Tables -/

namespace MountTable

/-- A line is read as a traced entry. -/
theorem traced_of_entryAt {ws : List (List Char)} {e : MountEntry} (h : EntryAt ws e) :
    e.Traced := by
  obtain ⟨_, root, _, _, _, _, _, _, _, _, _, _, hshows⟩ := h
  by_cases hnode : (e.device = "devtmpfs" ∨ e.device = "udev") ∧ Escape.unescape root ≠ ['/']
  · exact .inr (by simpa [MountEntry.placeholders] using hnode.1)
  · exact .inl (hshows.source hnode)

theorem traced_of_read {content : String} {rs : List MountEntry} (h : read content = .ok rs) :
    ∀ e ∈ rs, e.Traced := by
  have hrows : List.Forall₂ (fun e row => e.Traced ∧ EntryAt (Text.words row) e) rs
      ((rowsOf content).filter (! Text.isBlankText ·)) :=
    (read_eq_ok_iff_rows.1 h).flip.imp fun e row he => ⟨traced_of_entryAt he, he⟩
  exact ((List.forall₂_and_left _ _).1 hrows).1

end MountTable

/-! ## 3. Calls -/

section Clearing

variable {σ : Type} {m : MountSystem σ} {t : FileTree} {target : String} {k : Nat} {s : σ}
  {effects : List Action} {outcome : Except Refusal Unit} {w' : World σ}

/-- A target is unmounted if and only if the device is mounted there. -/
theorem Clearing.unmount_mem_iff (h : Clearing m t target k s effects outcome w') :
    .unmount target ∈ effects ↔ k ≠ 0 := by
  cases h with
  | absent none => simp [none]
  | stopped early before fails =>
    have hk : k ≠ 0 := Nat.ne_zero_of_lt early
    simp [hk]
  | kept some all refused => simp [some]
  | removed some all granted => simp [some]

end Clearing

/-- A device that is mounted at a target and elsewhere is published there for the next call. -/
theorem Handler.published?_ne_none_iff {mounts : List MountEntry} {target : String}
    (helse : ∃ e ∈ mounts, e.path ≠ target) :
    Handler.published? mounts target ≠ none ↔ ∃ e ∈ mounts, e.path = target := by
  rw [← publishedAt_iff]
  constructor
  · exact And.right
  · intro ⟨e, he, hpath⟩
    obtain ⟨x, hx, hxpath⟩ := helse
    exact publishedAt_iff.2 (published?_ne_none hx he hxpath hpath)

/-- **On every table that can be read the two ways to look for a device agree**: entry by entry, and
    in the number of entries at a path. So a call takes a volume off a target exactly where one of
    the mounts of the device is there. For a volume that is mounted elsewhere as well, these are the
    targets at which the next call to publish finds it published. -/
theorem MountTable.matchers_agree {content : String} {rs : List MountEntry}
    (h : read content = .ok rs) :
    (∀ e ∈ rs, ∀ node, e.mountsNode node = true ↔ e.source = node ∨ e.device = node) ∧
    (∀ (d : Device) (target : String),
      (rs.filter (·.path == target)).countP (Handler.shows · d) =
        ((rs.filter (·.mountsNode d.node)).filter (·.path == target)).length) ∧
    ∀ (naming : DeviceNaming) (r : UnpublishRequest) (w : World ToolBench) (d : Device),
      w.mounts.table = content → naming.device w.tree r.volume = .ok d →
      PlainPath.IsPlain r.target →
      (.unmount r.target ∈ (Call.unpublish r).effects ToolBench.system naming w ↔
        ∃ e ∈ rs.filter (·.mountsNode d.node), e.path = r.target) ∧
      ((∃ e ∈ rs.filter (·.mountsNode d.node), e.path ≠ r.target) →
        (.unmount r.target ∈ (Call.unpublish r).effects ToolBench.system naming w ↔
          Handler.published? (rs.filter (·.mountsNode d.node)) r.target ≠ none)) := by
  have htraced := traced_of_read h
  refine ⟨fun e he => MountEntry.traced_iff.1 (htraced e he), countP_shows_of_traced htraced, ?_⟩
  intro naming r w d htable hdevice hplain
  have hlisted : ToolBench.system.entries w.tree w.mounts = (.ok rs, w.mounts) := by
    show (read w.mounts.table, w.mounts) = _
    rw [htable, h]
  have hcourse := Call.unpublish_course hdevice hplain hlisted
  have hunmount : .unmount r.target ∈ (Call.unpublish r).effects ToolBench.system naming w ↔
      ∃ e ∈ rs.filter (·.mountsNode d.node), e.path = r.target := by
    rw [hcourse.unmount_mem_iff, ← Handler.countP_shows, countP_shows_of_traced htraced, ne_eq,
      List.length_eq_zero_iff, List.filter_eq_nil_iff]
    simp [and_assoc]
  exact ⟨hunmount, fun helse => hunmount.trans (Handler.published?_ne_none_iff helse).symm⟩

/-- The first volume of the small machine at `/s` and at `/t`, and a node that is bound to `/p`. -/
def nodeTable : String :=
  "41 28 8:16 / /s rw - ext4 /d/m rw\n42 28 8:16 / /t ro shared:7 - ext4 /d/m rw\n" ++
    "330 22 0:5 /sdc /p rw - devtmpfs udev rw\n"

/-- The entries of these lines. -/
def nodeEntries : List MountEntry :=
  [⟨"/d/m", "/d/m", "/s", "ext4", ["rw"]⟩, ⟨"/d/m", "/d/m", "/t", "ext4", ["ro"]⟩,
    ⟨"udev", "/dev/sdc", "/p", "devtmpfs", ["rw"]⟩]

/-- The bound node is found by its source both ways. The volume is seen at `/t` and taken off. -/
theorem MountTable.matchers_agree_nodeTable :
    read nodeTable = .ok nodeEntries ∧
      (nodeEntries.filter (·.path == "/p")).countP (Handler.shows · ⟨"/l/xc", "/dev/sdc", "xc"⟩) =
        1 ∧
      .unmount "/t" ∈ (Call.unpublish ⟨"a", "/t"⟩).effects ToolBench.system smallNaming
        ⟨smallTree, .fresh nodeTable⟩ ∧
      Handler.published? (nodeEntries.filter (·.mountsNode "/d/m")) "/t" ≠ none := by
  have hread : read nodeTable = .ok nodeEntries := by decide +kernel
  have hplain : PlainPath.IsPlain "/t" := (PlainPath.check_eq_ok_iff "/t").1 (by decide)
  obtain ⟨_, hcount, hcalls⟩ := matchers_agree hread
  obtain ⟨hunmount, hseen⟩ := hcalls smallNaming ⟨"a", "/t"⟩ ⟨smallTree, .fresh nodeTable⟩ _ rfl
    device_smallTree_a hplain
  have htaken := hunmount.2 (by decide)
  exact ⟨hread, (hcount ⟨"/l/xc", "/dev/sdc", "xc"⟩ "/p").trans (by decide), htaken,
    (hseen (by decide)).1 htaken⟩

end VolumeNode
