import VolumeNode.Proofs.FileTree.Walk
import VolumeNode.Proofs.Text.Ascii
import VolumeNode.Volume.DeviceLink

/-!
# The device that a volume is found at

A volume has a device exactly if its link is listed and leads to a device node
(`device_eq_ok_iff`). The node of the device is where the link leads without links on the way. It is
told by a path from the root (`head?_node`), and so by none of the words that stand in the mount
table where no node does.

The directory of links need be no text, while tools get texts. What they get is the text of the
directory with the name behind it (`linkText_eq_joinText`). If the directory is a text
(`TextNaming`), then this leads to the node (`canonical_link`), so mounting the link enters the node
in the mount table.
-/

namespace VolumeNode

open Location

/-- A path in bytes that starts with a slash, starts with one as text. -/
theorem Text.head?_ofBytes {bytes : List UInt8} (h : bytes.head? = some slash) :
    (Text.ofBytes bytes).toList.head? = some '/' := by
  obtain ⟨rest, rfl⟩ := List.head?_eq_some_iff.1 h
  unfold Text.ofBytes
  rw [String.toList_ofList]
  exact congrArg List.head? (Text.decodeLossy_append_ascii (b := slash) (by decide) [] rest)

/-- A naming whose directory has a text for its path. -/
structure TextNaming extends DeviceNaming where
  /-- No byte is lost when the path is read as text. -/
  isText : Text.bytesOf (Text.ofBytes directory) = directory

instance : Coe TextNaming DeviceNaming := ⟨TextNaming.toDeviceNaming⟩

/-- The naming with a directory that is given as text. -/
def TextNaming.ofText (directory lead : String) : TextNaming where
  directory := Text.bytesOf directory
  lead := lead
  isText := by rw [Text.ofBytes_bytesOf]

namespace DeviceNaming

/-! ## 1. Paths of links -/

/-- A path in a directory is that of the directory and the name, with one slash between. -/
theorem exists_entryPath (directory : List UInt8) (name : String) :
    ∃ front, entryPath directory name = front ++ slash :: Text.bytesOf name ∧
      (directory = front ∨ directory = front ++ [slash]) := by
  unfold entryPath
  split
  · rename_i hslash
    obtain ⟨front, rfl⟩ := List.getLast?_eq_some_iff.1 hslash
    exact ⟨front, by rw [List.append_assoc]; rfl, .inr rfl⟩
  · exact ⟨directory, rfl, .inl rfl⟩

/-- A path in a directory goes on from that of the directory. -/
theorem exists_entryPath_eq_append (directory : List UInt8) (name : String) :
    ∃ more, entryPath directory name = directory ++ more := by
  unfold entryPath
  split <;> exact ⟨_, rfl⟩

/-- The text of a directory with a name behind it, and a slash between if needed. -/
def joinText (directory name : String) : String :=
  if directory.toList.getLast? = some '/' then directory ++ name else directory ++ "/" ++ name

/-- **The text of a link is that of the directory with the name behind it**, whatever bytes the path
    of the directory is made of. -/
theorem linkText_eq_joinText (naming : DeviceNaming) (volume : String) :
    naming.linkText volume = joinText (Text.ofBytes naming.directory) (naming.linkOf volume) := by
  have hcut : ∀ front back, Text.decodeLossy (front ++ slash :: back) =
      Text.decodeLossy front ++ '/' :: Text.decodeLossy back :=
    Text.decodeLossy_append_ascii (by decide)
  have hname : Text.decodeLossy (Text.bytesOf (naming.linkOf volume)) =
      (naming.linkOf volume).toList := Text.decodeLossy_encode _
  have hlast : (Text.ofBytes naming.directory).toList.getLast? = some '/' ↔
      naming.directory.getLast? = some slash := by
    unfold Text.ofBytes
    rw [String.toList_ofList]
    exact Text.getLast?_decodeLossy_iff (c := '/') (by decide) _
  apply String.toList_injective
  unfold linkText linkPath entryPath joinText
  by_cases hslash : naming.directory.getLast? = some slash
  · rw [if_pos hslash, if_pos (hlast.2 hslash)]
    obtain ⟨front, hfront⟩ := List.getLast?_eq_some_iff.1 hslash
    unfold Text.ofBytes
    rw [String.toList_append, String.toList_ofList, String.toList_ofList, hfront,
      List.append_assoc, List.singleton_append, hcut, hname, hcut, Text.decodeLossy_nil,
      List.append_assoc, List.singleton_append]
  · rw [if_neg hslash, if_neg fun h => hslash (hlast.1 h)]
    unfold Text.ofBytes
    rw [String.toList_append, String.toList_append, String.toList_ofList, String.toList_ofList,
      hcut, hname, List.append_assoc]
    rfl

/-- The path of a link starts at the root if that of the directory does. -/
theorem head?_linkPath {naming : DeviceNaming} (hrooted : naming.directory.head? = some slash)
    (volume : String) : (naming.linkPath volume).head? = some slash := by
  obtain ⟨rest, hrest⟩ := List.head?_eq_some_iff.1 hrooted
  obtain ⟨more, hmore⟩ := exists_entryPath_eq_append naming.directory (naming.linkOf volume)
  unfold linkPath
  rw [hmore, hrest]
  rfl

/-- A path of a link without NUL in its parts has none. -/
theorem not_mem_linkPath {naming : DeviceNaming} {volume : String}
    (hdirectory : 0 ∉ naming.directory) (hname : 0 ∉ Text.bytesOf (naming.linkOf volume)) :
    0 ∉ naming.linkPath volume := by
  unfold linkPath entryPath
  split
  · simp [hdirectory, hname]
  · simp [hdirectory, hname, slash]

/-! ## 2. Devices -/

/-- A place can be looked up by its own path, and a device node stands there. -/
def NodeAt (t : FileTree) (place : Location) : Prop :=
  ∃ e, t.statBytes place.path = .ok e ∧ e.isDevice = true

/-- A path leads to a device exactly if it is there, has a path without links, and ends at a device
    node. -/
theorem deviceAt_eq_ok_iff {t : FileTree} {path : List UInt8} {name : String} {d : Device} :
    deviceAt t path name = .ok d ↔
      (∃ e, t.lstatBytes path = .ok e) ∧
        ∃ place, t.realPlace path = .ok place ∧ NodeAt t place ∧
          d = ⟨Text.ofBytes path, place.text, name⟩ := by
  unfold deviceAt NodeAt
  cases hl : t.lstatBytes path with
  | error e => simp
  | ok entry =>
    cases hc : t.realPlace path with
    | error e => simp
    | ok place =>
      dsimp only
      cases hs : t.statBytes place.path with
      | error e => simp [hs]
      | ok e =>
        by_cases he : e.isDevice = true
        · simp only [he, if_true, Except.ok.injEq, exists_eq', true_and, exists_eq_left', hs]
          exact eq_comm
        · simp [he, hs]

/-- **A volume has a device exactly if its link is listed and leads to one.** -/
theorem device_eq_ok_iff {naming : DeviceNaming} {t : FileTree} {volume : String} {d : Device} :
    naming.device t volume = .ok d ↔
      volume.isEmpty = false ∧
        (∃ names, t.readDirectory naming.directory = .ok names ∧
          ∃ n ∈ names, Text.ofBytes n = naming.linkOf volume) ∧
        deviceAt t (naming.linkPath volume) (naming.linkOf volume) = .ok d := by
  unfold device
  by_cases hv : volume.isEmpty = true
  · simp [hv]
  simp only [hv, Bool.false_eq_true, if_false]
  cases hr : t.readDirectory naming.directory with
  | error e => simp
  | ok names =>
    by_cases hn : (names.any fun n => Text.ofBytes n == naming.linkOf volume) = true
    · simp only [hn, if_true]
      rw [List.any_eq_true] at hn
      obtain ⟨n, hn, he⟩ := hn
      have hlisted : ∃ n ∈ names, Text.ofBytes n = naming.linkOf volume :=
        ⟨n, hn, by simpa using he⟩
      cases deviceAt t (naming.linkPath volume) (naming.linkOf volume) <;> simp [hlisted]
    · simp only [hn, Bool.false_eq_true, if_false, reduceCtorEq, false_iff]
      intro ⟨_, ⟨_, hnames, n, hmem, he⟩, _⟩
      cases hnames
      exact hn (List.any_eq_true.2 ⟨n, hmem, by simpa using he⟩)

/-- The path of a node starts at the root. -/
theorem head?_node {naming : DeviceNaming} {t : FileTree} {volume : String} {d : Device}
    (h : naming.device t volume = .ok d) : d.node.toList.head? = some '/' := by
  obtain ⟨_, _, hd⟩ := device_eq_ok_iff.1 h
  obtain ⟨_, place, _, _, rfl⟩ := deviceAt_eq_ok_iff.1 hd
  exact place.head?_text

end DeviceNaming

/-! ## 3. Directories that are texts -/

namespace TextNaming

/-- The text of a link is its path. -/
theorem bytesOf_linkText (naming : TextNaming) (volume : String) :
    Text.bytesOf (naming.linkText volume) = naming.linkPath volume := by
  have hpath : ∃ text, naming.linkPath volume = Text.bytesOf text := by
    unfold DeviceNaming.linkPath DeviceNaming.entryPath
    rw [← naming.isText]
    split
    · exact ⟨Text.ofBytes naming.directory ++ naming.linkOf volume,
        (Text.bytesOf_append _ _).symm⟩
    · refine ⟨Text.ofBytes naming.directory ++ "/" ++ naming.linkOf volume, ?_⟩
      rw [Text.bytesOf_append, Text.bytesOf_append, List.append_assoc]
      rfl
  obtain ⟨text, hpath⟩ := hpath
  unfold DeviceNaming.linkText
  rw [hpath, Text.ofBytes_bytesOf]

/-- The link of a device leads to its node, also by its text. -/
theorem canonical_link {naming : TextNaming} {t : FileTree} {volume : String} {d : Device}
    (h : naming.device t volume = .ok d) : t.canonical d.link = .ok d.node := by
  obtain ⟨_, _, hd⟩ := DeviceNaming.device_eq_ok_iff.1 h
  obtain ⟨_, place, hplace, _, rfl⟩ := DeviceNaming.deviceAt_eq_ok_iff.1 hd
  refine FileTree.canonical_eq_ok_iff.2 ⟨place, ?_, rfl⟩
  rwa [show Text.ofBytes _ = naming.linkText volume from rfl, naming.bytesOf_linkText]

end TextNaming

end VolumeNode
