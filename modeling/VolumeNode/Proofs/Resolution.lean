import VolumeNode.Proofs.Call.Requirements
import VolumeNode.Proofs.Commands
import VolumeNode.Proofs.Volume.Lookup

/-!
# Exact look-up of devices

Names in the device directory are compared as text, but the link is then looked up by the wanted
name. So a volume ID from outside can lead to nothing else.

* `Found` says, without a walker, which device a volume has: an entry with exactly the wanted name,
  and what its links end at. The device is told by the texts of the two paths.
* `Exact` are the answers of a look-up: that device, or one of three codes.
* **`exact_device`**: these are the answers for every tree that a system can have, every device
  directory from the root and every volume ID. The path of the directory may be any bytes.
* **`lost_or_mistold`**: a link may lead to a device (`Linked`), and the device is still not found
  (`Lost`), since the system follows so many links only, and paths so long only. And a device that
  is found may be told by texts that lead nowhere (`Mistold`), since its paths need be no texts.
-/

namespace VolumeNode

open Location

namespace DeviceNaming

variable {naming : DeviceNaming} {t : FileTree} {volume : String} {d : Device}

/-! ## 1. The device of a volume -/

/-- The device of a volume: the entry with the wanted name leads to its node. What the device is
    told by are the texts of the path of the entry, and of the path of the node without links. -/
structure Found (naming : DeviceNaming) (t : FileTree) (volume : String) (d : Device) : Prop where
  named : volume ≠ ""
  listed : ∃ names, t.readDirectory naming.directory = .ok names ∧
    Text.bytesOf (naming.linkOf volume) ∈ names
  node : ∃ k kind, t.FollowsTo (naming.linkPath volume) k ∧ t.get? k = some (.device kind) ∧
    t.Direct k ∧
      d = ⟨Text.ofBytes (naming.linkPath volume), Text.ofBytes k.path, naming.linkOf volume⟩

section Lawful

variable (ht : t.Lawful) (hrooted : naming.directory.head? = some slash)

include ht hrooted

/-- A device that is looked up is that of the volume. -/
theorem found_of_device (h : naming.device t volume = .ok d) : naming.Found t volume d := by
  obtain ⟨l, k, hway, rfl⟩ := exists_way ht h
  obtain ⟨links, hlinks, hleads⟩ := hway.follows
  obtain ⟨kind, hnode⟩ := hway.node
  rw [FileTree.startOf_of_head? t hrooted] at hleads
  obtain ⟨_, hbytes, _⟩ := FileTree.locateBytes_eq_ok_iff.1 hway.entry
  obtain ⟨rfl, _, _, hshort⟩ := FileTree.shortPath_eq_ok_iff.1 hbytes
  have hread : t.readDirectory naming.directory = .ok (t.names l) :=
    FileTree.readDirectory_eq_ok_iff.2 ⟨l, hway.directory, hway.readable, rfl⟩
  exact ⟨hway.named, ⟨_, hread, FileTree.mem_names_iff.2 hway.listed⟩, k, kind,
    ⟨hshort, links, hlinks, hleads⟩, hnode, FileTree.direct_of_get? ht hnode nofun, rfl⟩

/-- The device of a volume is found. -/
theorem device_of_found (h : naming.Found t volume d) : naming.device t volume = .ok d := by
  obtain ⟨hne, ⟨names, hread, hlisted⟩, k, kind,
    ⟨hshort, links, hlinks, looked, hleads, husable⟩, hget, _, rfl⟩ := h
  have hfile := FileTree.isDirectory_of_device hget
  obtain ⟨_, hlocate, _, rfl⟩ := FileTree.readDirectory_eq_ok_iff.1 hread
  have hreads : Text.ofBytes (Text.bytesOf (naming.linkOf volume)) = naming.linkOf volume :=
    Text.ofBytes_bytesOf _
  have hproper := proper_linkOf ht hlisted hreads
  have hnul : 0 ∉ naming.linkPath volume := by
    obtain ⟨_, hbytes, _⟩ := FileTree.locateBytes_eq_ok_iff.1 hlocate
    obtain ⟨rfl, hdirectory, _⟩ := FileTree.shortPath_eq_ok_iff.1 hbytes
    exact not_mem_linkPath hdirectory hproper.2
  have hdirne := List.isSome_head?.1 (Option.isSome_of_eq_some hrooted)
  have hhead := head?_linkPath hrooted volume
  have hnonempty := List.isSome_head?.1 (Option.isSome_of_eq_some hhead)
  -- both paths start at the root
  have hroot := FileTree.startOf_of_head? t hrooted
  have hroot' := FileTree.startOf_of_head? t hhead
  have hlstat : ∃ e, t.lstatBytes (naming.linkPath volume) = .ok e := by
    obtain ⟨m, e, _, hentry, hm⟩ := exists_entry_of_leads ht hne hdirne hproper.1 (hroot ▸ rfl)
      (hroot ▸ hleads) hlinks hfile
      (FileTree.shortPath_eq_ok_iff.2 ⟨rfl, hnul, hnonempty, hshort⟩)
    exact ⟨e, FileTree.lstatBytes_eq_ok_iff.2 ⟨_, hentry, hm⟩⟩
  have hplace : t.realPlace (naming.linkPath volume) = .ok k :=
    (FileTree.realPlace_eq_ok_iff_leads ht (hroot' ▸ rfl)).2
      ⟨hnul, hnonempty, links, hlinks, looked, hroot' ▸ hleads, husable⟩
  have hnode : NodeAt t k := by
    have hmem : k.path ∈ looked := by
      refine (hleads.path_mem ht hfile).resolve_left ?_
      rintro rfl
      cases hget
    exact ⟨_, FileTree.statBytes_path ht hget nofun (husable _ hmem), rfl⟩
  exact device_eq_ok_iff.2 ⟨by simpa using hne, ⟨_, hread, _, hlisted, hreads⟩,
    deviceAt_eq_ok_iff.2 ⟨hlstat, k, hplace, hnode, rfl⟩⟩

end Lawful

/-! ## 2. The answers -/

/-- What a look-up of a device comes to. -/
structure Exact (naming : DeviceNaming) (t : FileTree) (volume : String) : Prop where
  found : ∀ d, naming.device t volume = .ok d ↔ naming.Found t volume d
  unnamed : RefusedAs .invalidArgument (naming.device t volume) ↔ volume = ""
  missing : RefusedAs .notFound (naming.device t volume) ↔
    volume ≠ "" ∧ ∃ names, t.readDirectory naming.directory = .ok names ∧
      ∀ name ∈ names, Text.ofBytes name ≠ naming.linkOf volume
  failed : RefusedAs .internal (naming.device t volume) ↔
    (∀ d, naming.device t volume ≠ .ok d) ∧
      ¬ RefusedAs .invalidArgument (naming.device t volume) ∧
      ¬ RefusedAs .notFound (naming.device t volume)
  /-- The name of a device stays in the directory. -/
  inside : ∀ d, naming.device t volume = .ok d →
    '/' ∉ volume.toList ∧ naming.linkOf volume ≠ "." ∧ naming.linkOf volume ≠ ".."

/-- The course of a look-up. -/
inductive Course (naming : DeviceNaming) (t : FileTree) (volume : String) : Prop
  | unnamed (hv : volume = "") (h : RefusedAs .invalidArgument (naming.device t volume))
  | unlisted (hv : volume ≠ "") (hread : ∀ names, t.readDirectory naming.directory ≠ .ok names)
      (h : RefusedAs .internal (naming.device t volume))
  | missing (hv : volume ≠ "") {names : List Name}
      (hread : t.readDirectory naming.directory = .ok names)
      (hnone : ∀ name ∈ names, Text.ofBytes name ≠ naming.linkOf volume)
      (h : RefusedAs .notFound (naming.device t volume))
  | listed (hv : volume ≠ "") {names : List Name}
      (hread : t.readDirectory naming.directory = .ok names) {name : Name} (hname : name ∈ names)
      (hreads : Text.ofBytes name = naming.linkOf volume)
      (h : RefusedAs .internal (naming.device t volume) ∨ ∃ d, naming.device t volume = .ok d)

theorem course_device (naming : DeviceNaming) (t : FileTree) (volume : String) :
    naming.Course t volume := by
  by_cases hv : volume = ""
  · refine .unnamed hv ⟨.volumeRequired, ?_, rfl⟩
    rw [hv]
    rfl
  have hnamed : volume.isEmpty = false := by simpa using hv
  cases hread : t.readDirectory naming.directory with
  | error e =>
    refine .unlisted hv (by simp [hread])
      ⟨.unreadableDirectory (Text.ofBytes naming.directory) e, ?_, rfl⟩
    unfold device
    rw [hnamed, hread]
    rfl
  | ok names =>
    by_cases hlisted : ∃ name ∈ names, Text.ofBytes name = naming.linkOf volume
    · obtain ⟨name, hname, hreads⟩ := hlisted
      refine .listed hv hread hname hreads ?_
      have hany : (names.any fun n => Text.ofBytes n == naming.linkOf volume) = true :=
        List.any_eq_true.2 ⟨name, hname, beq_iff_eq.2 hreads⟩
      unfold device
      rw [hnamed, hread]
      simp only [Bool.false_eq_true, if_false, hany, if_true]
      cases deviceAt t (naming.linkPath volume) (naming.linkOf volume) with
      | error fault => exact .inl ⟨.unusableDevice volume fault, rfl, rfl⟩
      | ok d => exact .inr ⟨d, rfl⟩
    · have hnone : ∀ name ∈ names, Text.ofBytes name ≠ naming.linkOf volume :=
        fun name hname heq => hlisted ⟨name, hname, heq⟩
      refine .missing hv hread hnone ⟨.notAttached volume, ?_, rfl⟩
      have hany : (names.any fun n => Text.ofBytes n == naming.linkOf volume) = false := by
        simpa using hnone
      unfold device
      rw [hnamed, hread]
      simp only [Bool.false_eq_true, if_false, hany]

/-- **The look-up of a device is exact**: it finds the entry with the wanted name and what that
    leads to, and there is one cause for each code. -/
theorem exact_device (naming : DeviceNaming) (t : FileTree) (volume : String) (ht : t.Lawful)
    (hrooted : naming.directory.head? = some slash) : naming.Exact t volume where
  found d := ⟨found_of_device ht hrooted, device_of_found ht hrooted⟩
  unnamed := by
    cases course_device naming t volume with
    | unnamed hv h => exact iff_of_true h hv
    | unlisted hv hread h => exact iff_of_false (fun h' => nomatch h'.unique h) hv
    | missing hv hread hnone h => exact iff_of_false (fun h' => nomatch h'.unique h) hv
    | listed hv hread hname hreads h =>
      refine iff_of_false (fun h' => ?_) hv
      rcases h with h | ⟨d, h⟩
      · exact nomatch h'.unique h
      · exact not_refusedAs_ok (h ▸ h')
  missing := by
    cases course_device naming t volume with
    | unnamed hv h => exact iff_of_false (fun h' => nomatch h'.unique h) fun h' => h'.1 hv
    | unlisted hv hread h =>
      exact iff_of_false (fun h' => nomatch h'.unique h) fun ⟨_, names, hread', _⟩ =>
        hread names hread'
    | missing hv hread hnone h => exact iff_of_true h ⟨hv, _, hread, hnone⟩
    | listed hv hread hname hreads h =>
      refine iff_of_false (fun h' => ?_) fun ⟨_, _, hread', hnone⟩ => ?_
      · rcases h with h | ⟨d, h⟩
        · exact nomatch h'.unique h
        · exact not_refusedAs_ok (h ▸ h')
      · rw [hread] at hread'
        cases hread'
        exact hnone _ hname hreads
  failed := by
    constructor
    · intro h
      refine ⟨fun d hd => ?_, fun h' => ?_, fun h' => ?_⟩
      · rw [hd] at h
        exact not_refusedAs_ok h
      · cases h.unique h'
      · cases h.unique h'
    · rintro ⟨hfound, hunnamed, hmissing⟩
      cases course_device naming t volume with
      | unnamed hv h => exact absurd h hunnamed
      | unlisted hv hread h => exact h
      | missing hv hread hnone h => exact absurd h hmissing
      | listed hv hread hname hreads h => exact h.resolve_right fun ⟨d, hd⟩ => hfound d hd
  inside d h := by
    obtain ⟨_, ⟨names, hread, hlisted⟩, _⟩ := found_of_device ht hrooted h
    obtain ⟨_, _, _, rfl⟩ := FileTree.readDirectory_eq_ok_iff.1 hread
    obtain ⟨e, hget⟩ := FileTree.mem_names_iff.1 hlisted
    have hgiven : GivenName _ :=
      ht.of_get? hget _ (List.mem_append_right _ (List.mem_singleton_self _))
    refine ⟨fun hslash => hgiven.proper.1 ?_, fun heq => hgiven.ne_here ?_,
      fun heq => hgiven.ne_above ?_⟩
    · have hchar : '/' ∈ (naming.linkOf volume).toList := by
        unfold linkOf
        rw [String.toList_append]
        exact List.mem_append_right _ hslash
      exact (Text.mem_toList_iff (by decide) _).1 hchar
    · rw [heq]
      rfl
    · rw [heq]
      rfl

theorem exact_device_smallTree :
    smallTree.Lawful ∧ smallNaming.directory.head? = some slash ∧
      smallNaming.Exact smallTree "a" :=
  have hlawful : smallTree.Lawful := by decide +kernel
  ⟨hlawful, rfl, exact_device smallNaming smallTree "a" hlawful rfl⟩

/-! ## 3. Limits of the system -/

/-- The link of a volume leads to a device node, over any number of links and by any paths. -/
structure Linked (naming : DeviceNaming) (t : FileTree) (volume : String) : Prop where
  named : volume ≠ ""
  listed : ∃ names, t.readDirectory naming.directory = .ok names ∧
    Text.bytesOf (naming.linkOf volume) ∈ names
  node : ∃ k kind, t.LeadsTo [] (steps (naming.linkPath volume)) k ∧
    t.get? k = some (.device kind)

theorem Found.linked (h : naming.Found t volume d) : naming.Linked t volume where
  named := h.named
  listed := h.listed
  node := by
    obtain ⟨k, kind, ⟨_, links, _, looked, hleads, _⟩, hget, _⟩ := h.node
    exact ⟨k, kind, ⟨links, looked, hleads⟩, hget⟩

/-- A walk with any number of links to follow shows that a link leads to a device. -/
theorem linked_of_follow (ht : t.Lawful) (hv : volume ≠ "") {names : List Name}
    (hread : t.readDirectory naming.directory = .ok names)
    (hlisted : Text.bytesOf (naming.linkOf volume) ∈ names) {budget : Nat} {k : Location}
    {kind : NodeKind}
    (hfollow : FileTree.follow (t.advance true) budget []
      (steps (naming.linkPath volume)) = .ok (.entry k))
    (hget : t.get? k = some (.device kind)) : naming.Linked t volume where
  named := hv
  listed := ⟨names, hread, hlisted⟩
  node := ⟨k, kind, FileTree.leadsTo_of_follow ht rfl hfollow, hget⟩

/-- A device that is there, but that the system does not find. -/
structure Lost (naming : DeviceNaming) (t : FileTree) (volume : String) : Prop where
  lawful : t.Lawful
  rooted : naming.directory.head? = some slash
  linked : naming.Linked t volume
  lost : ∀ d, naming.device t volume ≠ .ok d

/-- Links are in `/l` and have the ID for a name. -/
def plainNaming : DeviceNaming := ⟨[slash, 0x6C], ""⟩

/-- Links in a row, one more than the system follows, and a device at their end. -/
def farTree : FileTree where
  entries :=
    ([[0x6C]], .directory 0o755) :: ([[0x6C], [0x6A]], .device .block) ::
      (List.range 41).map fun n => ([[0x6C], [0x41 + UInt8.ofNat n]], .link [0x42 + UInt8.ofNat n])
  workplace := []

/-- The longest name, made of one letter. -/
def broadName : Name := List.replicate 255 0x61

/-- Directories in one another, and a device so deep that its path is too long. A link leads half
    the way down, and another one from there to the device. -/
def deepTree : FileTree where
  entries :=
    ([[0x6C]], .directory 0o755) ::
      ([[0x6C], [0x78]], .link (Location.path (List.replicate 8 broadName ++ [[0x6D]]))) ::
      (List.replicate 8 broadName ++ [[0x6D]],
        .link ((Location.path (List.replicate 9 broadName ++ [[0x6D]])).drop 1)) ::
      (List.replicate 17 broadName ++ [[0x6D]], .device .block) ::
      (List.range 17).map fun n => (List.replicate (n + 1) broadName, .directory 0o755)
  workplace := []

/-- The links of the small machine, in a directory under a path that is almost too long. -/
def longNaming : DeviceNaming := ⟨[slash, 0x6C] ++ List.replicate 4092 slash, "x"⟩

theorem lost_farTree : plainNaming.Lost farTree "A" := by
  have hlawful : farTree.Lawful := by decide +kernel
  have hread : farTree.readDirectory plainNaming.directory = .ok (farTree.names [[0x6C]]) := by
    decide +kernel
  have hfollow : FileTree.follow (farTree.advance true) 41 []
      (steps (plainNaming.linkPath "A")) = .ok (.entry [[0x6C], [0x6A]]) := by
    decide +kernel
  have hdevice : plainNaming.device farTree "A" =
      .error (.unusableDevice "A" (.unreachable .tooManyLinks)) := by decide +kernel
  have hget : farTree.get? [[0x6C], [0x6A]] = some (.device .block) := by decide +kernel
  refine ⟨hlawful, rfl, linked_of_follow hlawful (by decide) hread (by decide +kernel) hfollow hget,
    fun d hd => ?_⟩
  rw [hdevice] at hd
  cases hd

theorem lost_deepTree : plainNaming.Lost deepTree "x" := by
  have hlawful : deepTree.Lawful := by decide +kernel
  have hread : deepTree.readDirectory plainNaming.directory = .ok [[0x78]] := by decide +kernel
  have hfollow : FileTree.follow (deepTree.advance true) 2 []
      (steps (plainNaming.linkPath "x")) =
        .ok (.entry (List.replicate 17 broadName ++ [[0x6D]])) := by decide +kernel
  have hdevice : plainNaming.device deepTree "x" =
      .error (.unusableDevice "x" (.unreachable .nameTooLong)) := by decide +kernel
  have hget : deepTree.get? (List.replicate 17 broadName ++ [[0x6D]]) =
      some (.device .block) := by decide +kernel
  refine ⟨hlawful, rfl, linked_of_follow hlawful (by decide) hread (by decide +kernel) hfollow hget,
    fun d hd => ?_⟩
  rw [hdevice] at hd
  cases hd

/-- The system can list the directory, but its links have paths that are too long. -/
theorem lost_longNaming : longNaming.Lost smallTree "a" := by
  have hlawful : smallTree.Lawful := by decide +kernel
  have hnames : ∀ n, namesOf ([slash, 0x6C] ++ List.replicate n slash) = [[0x6C]] := by
    intro n
    induction n with
    | zero => decide
    | succ n ih =>
      rw [List.replicate_succ', ← List.append_assoc, namesOf_append, ih]
      rfl
  have hsteps : steps longNaming.directory = [[0x6C], here] := by
    unfold longNaming
    rw [steps, hnames, List.getLast?_append, List.getLast?_replicate]
    rfl
  have hbytes : FileTree.shortPath longNaming.directory = .ok longNaming.directory := by
    refine FileTree.shortPath_eq_ok_iff.2 ⟨rfl, ?_, nofun, ?_⟩
    · unfold longNaming
      rw [List.mem_append, List.mem_replicate]
      exact fun h => h.elim (by decide) fun h => absurd h.2 (by decide)
    · unfold longNaming
      rw [List.length_append, List.length_replicate]
      decide
  have hread : smallTree.readDirectory longNaming.directory = .ok (smallTree.names [[0x6C]]) := by
    refine FileTree.readDirectory_eq_ok_iff.2 ⟨[[0x6C]], ?_, by decide, rfl⟩
    refine FileTree.locateBytes_eq_ok_iff.2 ⟨_, hbytes, ?_⟩
    rw [FileTree.startOf_of_head? _ rfl, hsteps]
    decide +kernel
  have hlink : steps (longNaming.linkPath "a") = [[0x6C], [0x78, 0x61]] := by
    rw [steps_linkPath (by decide +kernel) (by decide +kernel)]
    unfold longNaming
    rw [hnames]
    decide +kernel
  have hfollow : FileTree.follow (smallTree.advance true) 1 [] [[0x6C], [0x78, 0x61]] =
      .ok (.entry [[0x64], [0x6D]]) := by decide +kernel
  have hget : smallTree.get? [[0x64], [0x6D]] = some (.device .block) := by decide +kernel
  have hlong : FileTree.pathLimit ≤ (longNaming.linkPath "a").length := by
    have hname : (Text.bytesOf (longNaming.linkOf "a")).length = 2 := by decide +kernel
    have hlength : longNaming.directory.length = 2 + 4092 := by
      unfold longNaming
      rw [List.length_append, List.length_replicate]
      rfl
    unfold FileTree.pathLimit linkPath entryPath
    split
    · rw [List.length_append, hlength, hname]
    · rw [List.length_append, List.length_cons, hlength, hname]
      omega
  refine ⟨hlawful, rfl, linked_of_follow hlawful (by decide) hread (by decide +kernel)
    (hlink ▸ hfollow) hget, fun d hd => ?_⟩
  obtain ⟨_, _, ⟨hshort, _⟩, _⟩ := (found_of_device hlawful rfl hd).node
  exact absurd hshort (Nat.not_lt.2 hlong)

/-! ## 4. Paths that are no texts -/

/-- A device that is found, and is told by a text that leads nowhere. -/
structure Mistold (naming : DeviceNaming) (t : FileTree) (volume : String) (d : Device) :
    Prop where
  lawful : t.Lawful
  rooted : naming.directory.head? = some slash
  found : naming.device t volume = .ok d
  nowhere : t.lstat d.link = .error .noEntry ∨ t.lstat d.node = .error .noEntry

/-- Nodes and links with names that are no texts, and links to nodes of both kinds. -/
def oddTree : FileTree where
  entries :=
    [([[0x64]], .directory 0o755), ([[0x64], [0x6D]], .device .block),
      ([[0x64], [0xFE]], .device .block), ([[0x6C]], .directory 0o755),
      ([[0x6C], [0x61]], .link [slash, 0x64, slash, 0xFE]), ([[0xFF]], .directory 0o755),
      ([[0xFF], [0x61]], .link [slash, 0x64, slash, 0x6D])]
  workplace := []

/-- Links are in a directory with a name that is no text. -/
def oddNaming : DeviceNaming := ⟨[slash, 0xFF], ""⟩

/-- The text of the node is another path. -/
theorem mistold_node : plainNaming.Mistold oddTree "a" ⟨"/l/a", "/d/\uFFFD", "a"⟩ :=
  ⟨by decide +kernel, rfl, by decide +kernel, .inr (by decide +kernel)⟩

/-- The text of the link is another path. -/
theorem mistold_link : oddNaming.Mistold oddTree "a" ⟨"/\uFFFD/a", "/d/m", "a"⟩ :=
  ⟨by decide +kernel, rfl, by decide +kernel, .inl (by decide +kernel)⟩

/-- **Not every device whose link leads to it is found**: there may be too many links, the path of
    the link may be too long, or that of the node. **And not every device that is found is told by
    its paths**: neither that of the link nor that of the node need be a text. -/
theorem lost_or_mistold :
    (plainNaming.Lost farTree "A" ∧ longNaming.Lost smallTree "a" ∧
      plainNaming.Lost deepTree "x") ∧
    plainNaming.Mistold oddTree "a" ⟨"/l/a", "/d/\uFFFD", "a"⟩ ∧
      oddNaming.Mistold oddTree "a" ⟨"/\uFFFD/a", "/d/m", "a"⟩ :=
  ⟨⟨lost_farTree, lost_longNaming, lost_deepTree⟩, mistold_node, mistold_link⟩

end DeviceNaming

end VolumeNode
