import VolumeNode.Proofs.FileTree.Links
import VolumeNode.Proofs.Volume.Device

/-!
# The way to a device

How a device is looked up in a lawful tree: over the directory of links, by a link in it, to a node.

* The steps along the path of a link are the names of the directory, and the wanted name
  (`steps_linkPath`).
* `DeviceNaming.Way` says where these steps lead. **Every device that is found is at the end of such
  a way** (`exists_way`).
-/

namespace VolumeNode

open Location

namespace FileTree

variable {t : FileTree} {l : Location} {path : List UInt8}

/-- The names of a path to a directory lead there, with or without a slash behind them. -/
theorem leadsTo_of_locateBytes (ht : t.Lawful) (hd : t.isDirectory (t.startOf path) = true)
    (h : t.locateBytes true path = .ok l) : t.LeadsTo (t.startOf path) (namesOf path) l := by
  obtain ⟨_, hbytes, hland⟩ := locateBytes_eq_ok_iff.1 h
  obtain ⟨rfl, _⟩ := shortPath_eq_ok_iff.1 hbytes
  obtain ⟨_, _, _, hleads⟩ := (land_eq_ok_iff_leads ht hd).1 hland
  unfold steps at hleads
  obtain ⟨d, n, seen, _, _, _, hfirst, hsecond⟩ := hleads.split
  refine ⟨n, seen, ?_⟩
  -- a slash at the end of the path leads no further
  split at hsecond
  · cases hsecond with
    | here _ hend =>
      cases hend
      exact hfirst
    | down hhere => exact absurd rfl hhere
    | link hhere => exact absurd rfl hhere
  · cases hsecond
    exact hfirst

end FileTree

namespace DeviceNaming

variable {naming : DeviceNaming} {t : FileTree} {volume : String} {d : Device}

/-! ## 1. Steps to a link -/

theorem linkOf_ne_nil (hv : volume ≠ "") : Text.bytesOf (naming.linkOf volume) ≠ [] := by
  intro hnil
  have hempty : naming.linkOf volume = "" := Text.bytesOf_inj hnil
  unfold linkOf at hempty
  rw [String.append_eq_empty_iff] at hempty
  exact hv hempty.2

/-- The steps along the path of a link are the names of the directory, and the wanted name. -/
theorem steps_linkPath (hne : Text.bytesOf (naming.linkOf volume) ≠ [])
    (hslash : slash ∉ Text.bytesOf (naming.linkOf volume)) :
    steps (naming.linkPath volume) =
      namesOf naming.directory ++ [Text.bytesOf (naming.linkOf volume)] := by
  obtain ⟨front, hpath, hfront⟩ := exists_entryPath naming.directory (naming.linkOf volume)
  have hnames : namesOf front = namesOf naming.directory := by
    rcases hfront with hfront | hfront
    · rw [hfront]
    · rw [hfront, namesOf_append]
      exact (List.append_nil _).symm
  unfold linkPath
  rw [hpath, steps_append front hne hslash, hnames]

/-- A path in a directory starts where that of the directory does. -/
theorem startOf_linkPath (t : FileTree) (hne : naming.directory ≠ []) (volume : String) :
    t.startOf (naming.linkPath volume) = t.startOf naming.directory := by
  obtain ⟨more, hmore⟩ := exists_entryPath_eq_append naming.directory (naming.linkOf volume)
  unfold FileTree.startOf isAbsolute linkPath
  rw [hmore, List.head?_append, Option.or_of_isSome (List.isSome_head?.2 hne)]

/-- A name that reads as the wanted one is a name of the system, so the wanted one is proper. -/
theorem proper_linkOf (ht : t.Lawful) {l : Location} {name : Name} (hname : name ∈ t.names l)
    (hreads : Text.ofBytes name = naming.linkOf volume) :
    ProperName (Text.bytesOf (naming.linkOf volume)) := by
  obtain ⟨e, hget⟩ := FileTree.mem_names_iff.1 hname
  have hproper := (ht.of_get? hget name (by simp)).proper
  have hlist : (naming.linkOf volume).toList = Text.decodeLossy name := by
    rw [← hreads]
    exact String.toList_ofList
  constructor
  · intro hslash
    have hchar : '/' ∈ (naming.linkOf volume).toList := (Text.mem_toList_iff (by decide) _).2 hslash
    rw [hlist, Text.mem_decodeLossy_iff (by decide)] at hchar
    exact hproper.1 hchar
  · intro hzero
    have hchar : '\x00' ∈ (naming.linkOf volume).toList :=
      (Text.mem_toList_iff (by decide) _).2 hzero
    rw [hlist, Text.mem_decodeLossy_iff (by decide)] at hchar
    exact hproper.2 hchar

/-- Where the steps to a link lead to a node, the entry with the wanted name is in the directory
    that the path of the directory leads to. -/
theorem exists_entry_of_leads (ht : t.Lawful) (hne : volume ≠ "") (hdir : naming.directory ≠ [])
    (hslash : slash ∉ Text.bytesOf (naming.linkOf volume))
    (hstart : t.isDirectory (t.startOf naming.directory) = true) {links : Nat}
    {looked : List (List UInt8)} {k : Location}
    (hleads : t.Leads (t.startOf naming.directory) (steps (naming.linkPath volume)) links looked k)
    (hlinks : links ≤ FileTree.linkBudget) (hk : t.isDirectory k = false)
    (hshort : FileTree.shortPath (naming.linkPath volume) = .ok (naming.linkPath volume)) :
    ∃ l e, t.LeadsTo (t.startOf naming.directory) (namesOf naming.directory) l ∧
      t.locateBytes false (naming.linkPath volume) =
        .ok (l ++ [Text.bytesOf (naming.linkOf volume)]) ∧
      t.get? (l ++ [Text.bytesOf (naming.linkOf volume)]) = some e := by
  have hsteps := steps_linkPath (linkOf_ne_nil hne) hslash
  rw [hsteps] at hleads
  obtain ⟨l, e, hfirst, hland, hentry⟩ :=
    FileTree.exists_land_of_leads ht hstart hleads hlinks hk
  refine ⟨l, e, hfirst, FileTree.locateBytes_eq_ok_iff.2 ⟨_, hshort, ?_⟩, hentry⟩
  rw [startOf_linkPath t hdir, hsteps, hland]

/-! ## 2. The way to a node -/

/-- The way to the device of a volume: over the directory of links at `l`, by the entry with the
    wanted name, to a node at `k`. -/
structure Way (naming : DeviceNaming) (t : FileTree) (volume : String) (l k : Location) : Prop where
  named : volume ≠ ""
  directory : t.locateBytes true naming.directory = .ok l
  readable : t.isDirectory l = true
  entry : t.locateBytes false (naming.linkPath volume) =
    .ok (l ++ [Text.bytesOf (naming.linkOf volume)])
  listed : ∃ e, t.get? (l ++ [Text.bytesOf (naming.linkOf volume)]) = some e
  follows : ∃ links ≤ FileTree.linkBudget,
    t.LeadsBy (·.length < FileTree.pathLimit) (t.startOf naming.directory)
      (steps (naming.linkPath volume)) links k
  place : t.realPlace (naming.linkPath volume) = .ok k
  node : ∃ kind, t.get? k = some (.device kind)
  reachable : NodeAt t k

/-- Where a way ends at a place that is looked up as a device node, such a node stands there. -/
theorem exists_get?_of_nodeAt (ht : t.Lawful) {l k : Location} {names : List Name} {links : Nat}
    {looked : List (List UInt8)} (hleads : t.Leads l names links looked k)
    (hl : t.isDirectory l = true) (hk : NodeAt t k) :
    ∃ kind, t.get? k = some (.device kind) := by
  obtain ⟨e, hstat, he⟩ := hk
  obtain ⟨e', hget, hnolink⟩ := hleads.stands ht (FileTree.exists_of_isDirectory hl)
  rw [FileTree.statBytes_path ht hget hnolink (FileTree.statBytes_eq_ok_iff.1 hstat).1] at hstat
  cases hstat
  cases e with
  | device kind => exact ⟨kind, hget⟩
  | _ => cases he

/-- **A device that is found is at the end of a way.** -/
theorem exists_way (ht : t.Lawful) (hd : naming.device t volume = .ok d) :
    ∃ l k, naming.Way t volume l k ∧
      d = ⟨naming.linkText volume, k.text, naming.linkOf volume⟩ := by
  obtain ⟨hv, ⟨names, hread, n, hn, hreads⟩, hat⟩ := device_eq_ok_iff.1 hd
  obtain ⟨⟨_, hlstat⟩, k, hreal, hreachable, rfl⟩ := deviceAt_eq_ok_iff.1 hat
  obtain ⟨l, hlocate, hdir, rfl⟩ := FileTree.readDirectory_eq_ok_iff.1 hread
  have hne : volume ≠ "" := by
    rintro rfl
    cases hv
  have hdirne := FileTree.ne_nil_of_locateBytes hlocate
  have hstart := FileTree.isDirectory_startOf hlocate hdir
  -- the path of the link leads to the node
  have hleads := hreal
  rw [FileTree.realPlace_eq_ok_iff_leads ht (startOf_linkPath t hdirne volume ▸ hstart),
    startOf_linkPath t hdirne] at hleads
  obtain ⟨_, _, links, hlinks, looked, hleads, husable⟩ := hleads
  obtain ⟨kind, hnode⟩ := exists_get?_of_nodeAt ht hleads hstart hreachable
  -- and it does so by an entry of the directory
  obtain ⟨_, hlocate', _⟩ := FileTree.lstatBytes_eq_ok_iff.1 hlstat
  obtain ⟨_, hshort, _⟩ := FileTree.locateBytes_eq_ok_iff.1 hlocate'
  obtain rfl := (FileTree.shortPath_eq_ok_iff.1 hshort).1
  obtain ⟨l', e, ⟨_, _, hfirst⟩, hentry, hlisted⟩ :=
    exists_entry_of_leads ht hne hdirne (proper_linkOf ht hn hreads).1 hstart hleads hlinks
      (FileTree.isDirectory_of_device hnode) hshort
  obtain ⟨_, _, hdirectory⟩ := FileTree.leadsTo_of_locateBytes ht hstart hlocate
  obtain rfl := hdirectory.unique hfirst
  exact ⟨l', k,
    { named := hne
      directory := hlocate
      readable := hdir
      entry := hentry
      listed := ⟨e, hlisted⟩
      follows := ⟨links, hlinks, looked, hleads, husable⟩
      place := hreal
      node := ⟨kind, hnode⟩
      reachable := hreachable }, rfl⟩

end DeviceNaming

end VolumeNode
