import VolumeNode.Proofs.Call.Course
import VolumeNode.Proofs.Call.Frame

/-!
# Calls for different volumes commute

Two calls for volumes with different devices do not interfere, as long as their paths are apart and
neither has mounts of the other's device at its own paths.

* `Unrelated` says this much. A call may fail, and requests may be refused: nothing is said about
  that.
* `Call.Commute` says that the order of two calls does not matter. `SameFor` is what the two orders
  have in common. Trees and tables need not be equal as lists, since new directories and new mounts
  stand in the order in which they were made.
* **`Independent.commute`**: in both orders, both calls have the same outcome, and the worlds at the
  end are the same in this sense. Each call sees a world that is alike for it, whether the other one
  was made before or not; and at the paths of each call, the other one changes nothing.
* To be unrelated is not enough for that (**`unrelated_interfere`**): the look-up of a device may
  lead by a path of the other call and back, and paths that are no texts may be taken for others.
  `Independent` calls are those that do not meet in this way either. Their directory of links is a
  text, since a device is mounted by the text of its link.
-/

namespace VolumeNode

open Location

variable {naming : TextNaming} {w w' : MemoryWorld} {a b : Call} {d e : Device}

/-! ## 1. Independent calls -/

/-- Where the link of a volume points straight at: at a device node, with no other link to follow
    behind the directory. -/
def DeviceNaming.pointsAt (naming : DeviceNaming) (t : FileTree) (volume : String) :
    Option Location :=
  match t.locateBytes true naming.directory with
  | .error _ => none
  | .ok l =>
    match t.get? (l ++ [Text.bytesOf (naming.linkOf volume)]) with
    | some (.link target) =>
      match t.advance true (if isAbsolute target then [] else l) (steps target) with
      | .landed (.entry k) =>
        match t.get? k with
        | some (.device _) => some k
        | _ => none
      | _ => none
    | _ => none

/-- A call for a volume that is attached with this device. Its link points straight at the node, and
    its paths are normal, have no links on their way, and lie outside the directory of links. -/
structure Call.Placed (naming : DeviceNaming) (t : FileTree) (r : Call) (d : Device) : Prop where
  device : naming.device t r.volume = .ok d
  link : (naming.pointsAt t r.volume).isSome
  normal : ∀ path ∈ r.paths, NormalPath path
  direct : ∀ path ∈ r.paths, t.Direct (placeOf path)
  outside : ∀ path ∈ r.paths, naming.Outside t path

instance (naming : DeviceNaming) (t : FileTree) (r : Call) (d : Device) :
    Decidable (r.Placed naming t d) :=
  decidable_of_iff (naming.device t r.volume = .ok d ∧ (naming.pointsAt t r.volume).isSome ∧
    ∀ path ∈ r.paths, NormalPath path ∧ t.Direct (placeOf path) ∧ naming.Outside t path)
    ⟨fun ⟨hd, hlink, hpaths⟩ => ⟨hd, hlink, fun p hp => (hpaths p hp).1,
        fun p hp => (hpaths p hp).2.1, fun p hp => (hpaths p hp).2.2⟩,
      fun h => ⟨h.device, h.link, fun p hp => ⟨h.normal p hp, h.direct p hp, h.outside p hp⟩⟩⟩

/-- Two calls for volumes with different device nodes, in a tree that a file system can hold. None
    of their paths is, or is above, or is below one of the other call, and neither device is mounted
    at the paths of the other call. -/
structure Unrelated (naming : DeviceNaming) (w : MemoryWorld) (a b : Call) (d e : Device) :
    Prop where
  lawful : w.tree.Lawful
  left : a.Placed naming w.tree d
  right : b.Placed naming w.tree e
  nodes : naming.pointsAt w.tree a.volume ≠ naming.pointsAt w.tree b.volume
  places : ∀ p ∈ a.paths, ∀ q ∈ b.paths, (placeOf p).Apart (placeOf q)
  left_free : ∀ m ∈ w.mounts.entries, m.path ∈ a.paths → m.mountsNode e.node = false
  right_free : ∀ m ∈ w.mounts.entries, m.path ∈ b.paths → m.mountsNode d.node = false

instance (naming : DeviceNaming) (w : MemoryWorld) (a b : Call) (d e : Device) :
    Decidable (Unrelated naming w a b d e) :=
  decidable_of_iff (w.tree.Lawful ∧ a.Placed naming w.tree d ∧ b.Placed naming w.tree e ∧
    naming.pointsAt w.tree a.volume ≠ naming.pointsAt w.tree b.volume ∧
    (∀ p ∈ a.paths, ∀ q ∈ b.paths, (placeOf p).Apart (placeOf q)) ∧
    (∀ m ∈ w.mounts.entries, m.path ∈ a.paths → m.mountsNode e.node = false) ∧
    ∀ m ∈ w.mounts.entries, m.path ∈ b.paths → m.mountsNode d.node = false)
    ⟨fun ⟨hlawful, hleft, hright, hnodes, hplaces, hfree, hfree'⟩ =>
        ⟨hlawful, hleft, hright, hnodes, hplaces, hfree, hfree'⟩,
      fun h => ⟨h.lawful, h.left, h.right, h.nodes, h.places, h.left_free, h.right_free⟩⟩

/-- Unrelated calls that do not meet in the look-up of their devices either. The path of the
    directory of links is a text. -/
structure Independent (naming : TextNaming) (w : MemoryWorld) (a b : Call) (d e : Device) : Prop
    extends Unrelated naming w a b d e where
  /-- The texts of the paths of the nodes are different, too. -/
  told : d.node ≠ e.node
  left_clear : ∀ path ∈ b.paths, naming.ClearOf w.tree path a.volume
  right_clear : ∀ path ∈ a.paths, naming.ClearOf w.tree path b.volume

/-- Two worlds with the same tree, whose tables have the same mounts at every path and the same
    mounts of two devices, know the same about all devices, and refuse the same. -/
structure SameFor (d e : Device) (w w' : MemoryWorld) : Prop where
  tree : ∀ l, w.tree.get? l = w'.tree.get? l
  /-- The trees have the same entries; only new ones may stand in another order. -/
  entries : w.tree.entries.Perm w'.tree.entries
  workplace : w.tree.workplace = w'.tree.workplace
  /-- The filesystems, how often each device was formatted, and what is refused. -/
  knows : ∀ node, MemoryTable.Knows node w.mounts w'.mounts
  entriesAt : ∀ path, w.mounts.entriesAt path = w'.mounts.entriesAt path
  left : w.mounts.entriesOf d.node = w'.mounts.entriesOf d.node
  right : w.mounts.entriesOf e.node = w'.mounts.entriesOf e.node

/-- The order of two calls does not matter: they have the same outcomes, and lead to the same. -/
def Call.Commute (naming : DeviceNaming) (w : MemoryWorld) (a b : Call) (d e : Device) : Prop :=
  ∃ x y w₁ w₂, Call.runAll naming [a, b] w = ([x, y], w₁) ∧
    Call.runAll naming [b, a] w = ([y, x], w₂) ∧ SameFor d e w₁ w₂

theorem Independent.symm (h : Independent naming w a b d e) : Independent naming w b a e d where
  lawful := h.lawful
  left := h.right
  right := h.left
  nodes := h.nodes.symm
  places p hp q hq := (h.places q hq p hp).symm
  left_free := h.right_free
  right_free := h.left_free
  told := h.told.symm
  left_clear := h.right_clear
  right_clear := h.left_clear

/-! ## 2. One call after the other -/

theorem Call.runAll_pair (naming : DeviceNaming) (a b : Call) (w : MemoryWorld) :
    Call.runAll naming [a, b] w =
      ([(a.run MemoryTable.system naming w).1,
          (b.run MemoryTable.system naming (a.run MemoryTable.system naming w).2).1],
        (b.run MemoryTable.system naming (a.run MemoryTable.system naming w).2).2) := rfl

theorem Call.exists_path (r : Call) : ∃ path, path ∈ r.paths := by
  cases r <;> exact ⟨_, List.mem_cons_self⟩

theorem Call.Placed.alikeFor {t : FileTree} (h : a.Placed naming t d)
    (hproper : ∀ path ∈ a.paths, placeOf path ≠ []) : FileTree.AlikeFor a.paths t t :=
  ⟨h.normal, hproper, h.direct, fun _ _ _ _ => rfl⟩

/-- The first call keeps off the paths and the device of the second one. -/
theorem Independent.keepsOff (h : Independent naming w a b d e) :
    KeepsOff naming w a d b.paths e.node where
  device := h.left.device
  own := by
    obtain ⟨q, hq⟩ := b.exists_path
    exact h.left.alikeFor fun p hp => (h.places p hp q hq).ne_nil
  others := by
    obtain ⟨p, hp⟩ := a.exists_path
    exact h.right.alikeFor fun q hq => (h.places p hp q hq).symm.ne_nil
  places := h.places
  node_ne := h.told
  rooted := DeviceNaming.head?_node h.right.device
  free := h.left_free

/-- The device of the second call is found still after the first one. -/
theorem Independent.device (h : Independent naming w a b d e) :
    naming.device (a.run MemoryTable.system naming w).2.tree b.volume = .ok e := by
  rcases Call.tree_run naming a w with hsame | ⟨path, hpath, hchanged⟩
  · rw [hsame]
    exact h.right.device
  · exact hchanged.device h.lawful h.keepsOff.own hpath h.right.device (h.right_clear path hpath)
      (h.left.outside path hpath)

/-- The second call comes to the same after the first one as without it. -/
theorem Independent.inStep (h : Independent naming w a b d e) :
    InStep (Alike b.paths e.node) (b.run MemoryTable.system naming w)
      (b.run MemoryTable.system naming (a.run MemoryTable.system naming w).2) :=
  h.keepsOff.alike.run h.right.device h.device

/-- The second call keeps off the paths and the device of the first one, after that one too. -/
theorem Independent.keepsOff_after (h : Independent naming w a b d e) :
    KeepsOff naming (a.run MemoryTable.system naming w).2 b e a.paths d.node where
  device := h.device
  own := h.keepsOff.alike.tree.symm.trans h.keepsOff.alike.tree
  others := by
    have hstep := h.symm.inStep.2.tree
    exact hstep.trans hstep.symm
  places := h.symm.places
  node_ne := h.told.symm
  rooted := DeviceNaming.head?_node h.left.device
  free m hm hpath := by
    -- at the paths of the second call, the first one has changed nothing
    have hmem : m ∈ w.mounts.entries.filter (MemoryTable.concerns b.paths e.node) := by
      rw [h.keepsOff.alike.mounts.entries]
      exact List.mem_filter.2 ⟨hm, MemoryTable.concerns_of_path _ hpath⟩
    exact h.right_free m (List.mem_filter.1 hmem).1 hpath

/-- What the first call has to do with is the same in both orders. -/
theorem Independent.alike (h : Independent naming w a b d e) :
    Alike a.paths d.node
      (b.run MemoryTable.system naming (a.run MemoryTable.system naming w).2).2
      (a.run MemoryTable.system naming (b.run MemoryTable.system naming w).2).2 :=
  h.keepsOff_after.alike.symm.trans h.symm.inStep.2

/-! ## 3. Everything else -/

/-- Nothing changes at places that are no place of a path of the call. -/
theorem KeepsOff.listed_run {paths : List String} {node : String}
    (h : KeepsOff naming w a d paths node) {l : Location}
    (hl : ∀ path ∈ a.paths, l ≠ placeOf path) :
    (a.run MemoryTable.system naming w).2.tree.listed l = w.tree.listed l := by
  rcases Call.tree_run naming a w with hsame | ⟨path, hpath, hchanged⟩
  · rw [hsame]
  · exact hchanged.listed h.own hpath (hl path hpath)

theorem Call.workplace_run (naming : DeviceNaming) (r : Call) (w : MemoryWorld) :
    (r.run MemoryTable.system naming w).2.tree.workplace = w.tree.workplace := by
  rcases Call.tree_run naming r w with hsame | ⟨path, hpath, hchanged⟩
  · rw [hsame]
  · exact hchanged.workplace

/-- Nothing changes in the table at paths that the call does not name. -/
theorem KeepsOff.entriesAt_run {paths : List String} {node path : String}
    (h : KeepsOff naming w a d paths node) (hpath : path ∉ a.paths) :
    (a.run MemoryTable.system naming w).2.mounts.entriesAt path = w.mounts.entriesAt path := by
  refine Call.filter_run h.device h.node_ne h.rooted (fun m hm _ => ?_) h.free
  rw [beq_eq_false_iff_ne]
  exact fun heq => hpath (heq ▸ hm)

section After

variable (h : Independent naming w a b d e)

include h

/-- What neither call has to do with is in the end as it was. -/
theorem Independent.listed_after {l : Location} (ha : ∀ path ∈ a.paths, l ≠ placeOf path)
    (hb : ∀ path ∈ b.paths, l ≠ placeOf path) :
    (b.run MemoryTable.system naming (a.run MemoryTable.system naming w).2).2.tree.listed l =
      w.tree.listed l :=
  (h.keepsOff_after.listed_run hb).trans (h.keepsOff.listed_run ha)

theorem Independent.entriesAt_after {path : String} (ha : path ∉ a.paths) (hb : path ∉ b.paths) :
    (b.run MemoryTable.system naming (a.run MemoryTable.system naming w).2).2.mounts.entriesAt
        path = w.mounts.entriesAt path :=
  (h.keepsOff_after.entriesAt_run hb).trans (h.keepsOff.entriesAt_run ha)

theorem Independent.knows_after {node : String} (ha : d.node ≠ node) (hb : e.node ≠ node) :
    MemoryTable.Knows node w.mounts
      (b.run MemoryTable.system naming (a.run MemoryTable.system naming w).2).2.mounts :=
  (Call.knows_run h.left.device ha).trans (Call.knows_run h.device hb)

end After

/-- In both orders the same is listed under every location. -/
theorem Independent.listed_eq (h : Independent naming w a b d e) (l : Location) :
    (b.run MemoryTable.system naming (a.run MemoryTable.system naming w).2).2.tree.listed l =
      (a.run MemoryTable.system naming (b.run MemoryTable.system naming w).2).2.tree.listed l := by
  by_cases ha : ∃ path ∈ a.paths, l = placeOf path
  · obtain ⟨path, hpath, rfl⟩ := ha
    exact h.alike.tree.agree path hpath _ fun hapart => hapart.1 List.prefix_rfl
  by_cases hb : ∃ path ∈ b.paths, l = placeOf path
  · obtain ⟨path, hpath, rfl⟩ := hb
    exact (h.symm.alike.tree.agree path hpath _ fun hapart => hapart.1 List.prefix_rfl).symm
  have ha : ∀ path ∈ a.paths, l ≠ placeOf path := fun path hpath heq => ha ⟨path, hpath, heq⟩
  have hb : ∀ path ∈ b.paths, l ≠ placeOf path := fun path hpath heq => hb ⟨path, hpath, heq⟩
  rw [h.listed_after ha hb, h.symm.listed_after hb ha]

/-- The two orders lead to the same world, but for the order of what was made in the meantime. -/
theorem Independent.sameFor (h : Independent naming w a b d e) :
    SameFor d e (b.run MemoryTable.system naming (a.run MemoryTable.system naming w).2).2
      (a.run MemoryTable.system naming (b.run MemoryTable.system naming w).2).2 where
  tree l := FileTree.get?_of_listed (h.listed_eq l)
  entries := FileTree.perm_of_listed h.listed_eq
  workplace := by simp only [Call.workplace_run]
  knows node := by
    by_cases ha : d.node = node
    · exact ha ▸ h.alike.mounts.toKnows
    by_cases hb : e.node = node
    · exact hb ▸ h.symm.alike.mounts.toKnows.symm
    exact (h.knows_after ha hb).symm.trans (h.symm.knows_after hb ha)
  entriesAt path := by
    by_cases ha : path ∈ a.paths
    · exact h.alike.mounts.entriesAt ha
    by_cases hb : path ∈ b.paths
    · exact (h.symm.alike.mounts.entriesAt hb).symm
    rw [h.entriesAt_after ha hb, h.symm.entriesAt_after hb ha]
  left := h.alike.mounts.entriesOf
  right := h.symm.alike.mounts.entriesOf.symm

/-- **Calls for different volumes commute.** In both orders each of the two calls has the same
    outcome, whether it succeeds or fails, and the worlds at the end are the same, but for the order
    in which new directories and new mounts are listed. -/
theorem Independent.commute (h : Independent naming w a b d e) : Call.Commute naming w a b d e := by
  refine ⟨_, _, _, _, Call.runAll_pair naming a b w, ?_, h.sameFor⟩
  rw [Call.runAll_pair, h.inStep.1, h.symm.inStep.1]

/-- The small machine with one volume staged at `/s` and the other one mounted at `/t`. -/
def sharedMachine : MemoryWorld where
  tree := smallTree
  mounts :=
    { MemoryTable.empty with
      entries :=
        [MemoryTable.deviceEntry "/d/m" "/s" "ext4" [],
          MemoryTable.deviceEntry "/d/n" "/t" "ext4" []] }

/-- Publishes the first volume at a new directory. -/
def publishFirst : Call := .publish ⟨"a", "/s", "/p", writer [], false⟩

/-- Takes the second volume off its directory. -/
def unpublishSecond : Call := .unpublish ⟨"b", "/t"⟩

/-- One directory is made and another one is removed, in either order. -/
theorem commute_sharedMachine :
    Independent smallNaming sharedMachine publishFirst unpublishSecond ⟨"/l/xa", "/d/m", "xa"⟩
        ⟨"/l/xb", "/d/n", "xb"⟩ ∧
      Call.Commute smallNaming sharedMachine publishFirst unpublishSecond ⟨"/l/xa", "/d/m", "xa"⟩
        ⟨"/l/xb", "/d/n", "xb"⟩ ∧
      (Call.runAll smallNaming [publishFirst, unpublishSecond] sharedMachine).1 =
        [.ok (), .ok ()] := by
  have hunrelated : Unrelated smallNaming sharedMachine publishFirst unpublishSecond
      ⟨"/l/xa", "/d/m", "xa"⟩ ⟨"/l/xb", "/d/n", "xb"⟩ := by decide +kernel
  have h : Independent smallNaming sharedMachine publishFirst unpublishSecond
      ⟨"/l/xa", "/d/m", "xa"⟩ ⟨"/l/xb", "/d/n", "xb"⟩ :=
    { hunrelated with
      told := by decide
      left_clear := by decide +kernel
      right_clear := by decide +kernel }
  exact ⟨h, h.commute, by decide +kernel⟩

/-! ## 4. Unrelated calls that meet -/

/-- Unrelated calls whose order matters. -/
def Call.Interfere (naming : DeviceNaming) (w : MemoryWorld) (a b : Call) : Prop :=
  ∃ d e, Unrelated naming w a b d e ∧ ¬ Call.Commute naming w a b d e

/-- Calls interfere if their outcomes depend on the order. -/
theorem Call.interfere_of_outcomes {naming : DeviceNaming} (d e : Device)
    (hunrelated : Unrelated naming w a b d e)
    (h : (Call.runAll naming [b, a] w).1 ≠ (Call.runAll naming [a, b] w).1.reverse) :
    Call.Interfere naming w a b := by
  refine ⟨d, e, hunrelated, ?_⟩
  intro ⟨x, y, w₁, w₂, hab, hba, _⟩
  rw [hab, hba] at h
  exact h rfl

/-- Stages the first volume. -/
def stageFirst : Call := .stage ⟨"a", "/s", writer []⟩

/-- Stages the second volume. -/
def stageSecond : Call := .stage ⟨"b", "/t", writer []⟩

/-- A machine whose workplace is the directory `/t`. -/
def lowMachine : MemoryWorld :=
  { sharedMachine with tree := { smallTree with workplace := [[0x74]] } }

/-- A machine whose first link goes to its node by way of `/t`. -/
def turningMachine : MemoryWorld :=
  { sharedMachine with
    tree :=
      { entries :=
          [([[0x64]], .directory 0o755), ([[0x64], [0x6D]], .device .block),
            ([[0x64], [0x6E]], .device .block), ([[0x6C]], .directory 0o755),
            ([[0x6C], [0x78, 0x61]], .link [0x2F, 0x74, 0x2F, 0x2E, 0x2E, 0x2F, 0x64, 0x2F, 0x6D]),
            ([[0x6C], [0x78, 0x62]], .link [0x2F, 0x64, 0x2F, 0x6E]),
            ([[0x73]], .directory 0o755), ([[0x74]], .directory 0o755)]
        workplace := [] } }

/-- Links and nodes with paths that are no texts: links in `/l` to the nodes `/d/\xFD` and
    `/d/\xFE`, and links in `/\xFF` to the nodes `/d/m` and `/d/n`. What the text of `/\xFF` names
    is another directory, with a link to one of these nodes. -/
def oddMachine : MemoryWorld where
  tree :=
    { entries :=
        [([[0x64]], .directory 0o755), ([[0x64], [0x6D]], .device .block),
          ([[0x64], [0x6E]], .device .block), ([[0x64], [0xFD]], .device .block),
          ([[0x64], [0xFE]], .device .block), ([[0x6C]], .directory 0o755),
          ([[0x6C], [0x78, 0x61]], .link [0x2F, 0x64, 0x2F, 0xFD]),
          ([[0x6C], [0x78, 0x62]], .link [0x2F, 0x64, 0x2F, 0xFE]),
          ([[0x73]], .directory 0o755), ([[0x74]], .directory 0o755),
          ([[0xFF]], .directory 0o755),
          ([[0xFF], [0x78, 0x61]], .link [0x2F, 0x64, 0x2F, 0x6D]),
          ([[0xFF], [0x78, 0x62]], .link [0x2F, 0x64, 0x2F, 0x6E]),
          ([[0xEF, 0xBF, 0xBD]], .directory 0o755),
          ([[0xEF, 0xBF, 0xBD], [0x78, 0x61]], .link [0x2F, 0x64, 0x2F, 0x6E])]
      workplace := [] }
  mounts := .empty

/-- Links are in a directory with a name that is no text. -/
def byteNaming : DeviceNaming := ⟨[0x2F, 0xFF], "x"⟩

/-- **Unrelated calls may interfere.** The look-up of a device may go up from a directory that the
    other call removes, by the path of the directory of links or by what the link holds, or it may
    start there. And that path, or those of the nodes, may be no texts, and the texts lead
    elsewhere. -/
theorem unrelated_interfere :
    Call.Interfere (TextNaming.ofText "/t/../l" "x") sharedMachine publishFirst unpublishSecond ∧
      Call.Interfere smallNaming turningMachine publishFirst unpublishSecond ∧
      Call.Interfere (TextNaming.ofText "../l" "x") lowMachine publishFirst unpublishSecond ∧
      Call.Interfere byteNaming oddMachine stageFirst stageSecond ∧
      Call.Interfere smallNaming oddMachine stageFirst stageSecond := by
  refine ⟨?directory, ?link, ?start, ?linkText, ?nodeText⟩
  case directory =>
    exact Call.interfere_of_outcomes ⟨"/t/../l/xa", "/d/m", "xa"⟩ ⟨"/t/../l/xb", "/d/n", "xb"⟩
      (by decide +kernel) (by decide +kernel)
  case link =>
    exact Call.interfere_of_outcomes ⟨"/l/xa", "/d/m", "xa"⟩ ⟨"/l/xb", "/d/n", "xb"⟩
      (by decide +kernel) (by decide +kernel)
  case start =>
    exact Call.interfere_of_outcomes ⟨"../l/xa", "/d/m", "xa"⟩ ⟨"../l/xb", "/d/n", "xb"⟩
      (by decide +kernel) (by decide +kernel)
  case linkText =>
    exact Call.interfere_of_outcomes ⟨"/\uFFFD/xa", "/d/m", "xa"⟩ ⟨"/\uFFFD/xb", "/d/n", "xb"⟩
      (by decide +kernel) (by decide +kernel)
  case nodeText =>
    exact Call.interfere_of_outcomes ⟨"/l/xa", "/d/\uFFFD", "xa"⟩ ⟨"/l/xb", "/d/\uFFFD", "xb"⟩
      (by decide +kernel) (by decide +kernel)

end VolumeNode
