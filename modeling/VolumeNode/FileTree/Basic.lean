import VolumeNode.Association
import VolumeNode.Text.Utf8

/-!
# File trees

A tree is a list of entries, each under its location: the names that lead to it from the root.
The root itself is always a directory and is not listed.

* `Entry` is what stands at a location: a directory with its permission bits, a file, a symbolic
  link, a device node or a socket. Contents of files are not kept, since nothing reads them.
* `get?` looks a location up, `insert` and `erase` change one location, `eraseBelow` takes a whole
  branch away, `names` lists a directory.
* One equation per operation says what `get?` sees afterwards (`get?_insert`, `get?_erase`);
  `erase_insert` says that erasing a new entry gives the old tree back.
-/

namespace VolumeNode

/-! ## 1. Entries and locations -/

/-- A name in a directory, as bytes. -/
abbrev Name := List UInt8

/-- The names that lead from the root to an entry. -/
abbrev Location := List Name

/-- The two kinds of device nodes. -/
inductive NodeKind where
  | block
  | character
deriving DecidableEq, Repr

/-- What stands at a location. -/
inductive Entry where
  /-- A directory, with its permission bits. -/
  | directory (mode : Nat)
  | file
  /-- A symbolic link, with the path it holds. -/
  | link (target : List UInt8)
  | device (kind : NodeKind)
  | socket
deriving DecidableEq, Repr

namespace Entry

/-- Whether an entry is a directory. -/
def isDirectory : Entry → Bool
  | directory _ => true
  | _ => false

/-- Whether an entry is a device node. -/
def isDevice : Entry → Bool
  | device _ => true
  | _ => false

@[simp] theorem isDirectory_directory (mode : Nat) : (directory mode).isDirectory = true := rfl

@[simp] theorem isDevice_device (kind : NodeKind) : (device kind).isDevice = true := rfl

end Entry

/-- The entries of a file system, each under its location. -/
structure FileTree where
  entries : List (Location × Entry)
  /-- Where paths start that do not start at the root. -/
  workplace : Location
deriving DecidableEq, Repr

namespace FileTree

/-! ## 2. Operations -/

/-- The tree of the root alone, where all paths start. -/
def empty : FileTree := ⟨[], []⟩

/-- The permission bits of directories made without a wish of their own. -/
def commonMode : Nat := 0o755

/-- What stands at a location, if anything. -/
def get? (t : FileTree) (l : Location) : Option Entry :=
  if l = [] then some (.directory commonMode) else t.entries.lookup l

/-- Whether a location holds a directory. -/
def isDirectory (t : FileTree) (l : Location) : Bool :=
  (t.get? l).any Entry.isDirectory

/-- Adds an entry at a location that is free. -/
def insert (t : FileTree) (l : Location) (e : Entry) : FileTree :=
  { t with entries := t.entries ++ [(l, e)] }

/-- Takes the entry at a location away. -/
def erase (t : FileTree) (l : Location) : FileTree :=
  { t with entries := t.entries.filter fun p => p.1 ≠ l }

/-- Takes the entry at a location away, with everything below it. -/
def eraseBelow (t : FileTree) (l : Location) : FileTree :=
  { t with entries := t.entries.filter fun p => ! l.isPrefixOf p.1 }

/-- The names in a directory, in the order of the entries. -/
def names (t : FileTree) (l : Location) : List Name :=
  t.entries.filterMap fun p => if p.1.dropLast = l then p.1.getLast? else none

/-! ## 3. What a look-up sees -/

@[simp] theorem get?_root (t : FileTree) : t.get? [] = some (.directory commonMode) := rfl

theorem get?_of_ne_nil (t : FileTree) {l : Location} (h : l ≠ []) :
    t.get? l = t.entries.lookup l := by
  simp [get?, h]

/-- What stands anywhere but at the root is an entry. -/
theorem mem_entries_of_get? {t : FileTree} {l : Location} {e : Entry} (hl : l ≠ [])
    (h : t.get? l = some e) : (l, e) ∈ t.entries := by
  rw [get?_of_ne_nil t hl] at h
  obtain ⟨_, _, hentries, _⟩ := List.lookup_eq_some_iff.1 h
  rw [hentries]
  exact List.mem_append_right _ List.mem_cons_self

/-- After an insertion at a free location, that location holds the entry and all others are as
    before. -/
theorem get?_insert {t : FileTree} {l : Location} (h : t.get? l = none) (e : Entry)
    (k : Location) : (t.insert l e).get? k = if k = l then some e else t.get? k := by
  have hl : l ≠ [] := by
    rintro rfl
    simp at h
  rw [get?_of_ne_nil t hl] at h
  by_cases hk : k = []
  · subst hk
    simp [Ne.symm hl]
  · rw [get?_of_ne_nil _ hk, get?_of_ne_nil _ hk]
    exact Association.lookup_concat h e k

/-- After an erasure below the root, that location is free and all others are as before. -/
theorem get?_erase (t : FileTree) {l : Location} (h : l ≠ []) (k : Location) :
    (t.erase l).get? k = if k = l then none else t.get? k := by
  by_cases hk : k = []
  · subst hk
    simp [Ne.symm h]
  · rw [get?_of_ne_nil _ hk, get?_of_ne_nil _ hk]
    exact Association.lookup_filter_ne t.entries l k

theorem not_mem_of_get?_eq_none {t : FileTree} {l : Location} (h : t.get? l = none) :
    ∀ p ∈ t.entries, p.1 ≠ l := by
  intro p hp hpl
  have hl : l ≠ [] := by
    rintro rfl
    simp at h
  rw [get?_of_ne_nil t hl, List.lookup_eq_none_iff] at h
  have := h p hp
  simp [hpl] at this

/-- Erasing a new entry gives the old tree back. -/
theorem erase_insert {t : FileTree} {l : Location} (h : t.get? l = none) (e : Entry) :
    (t.insert l e).erase l = t := by
  have := not_mem_of_get?_eq_none h
  obtain ⟨entries, workplace⟩ := t
  simp only [erase, insert, FileTree.mk.injEq, List.filter_append]
  rw [List.filter_eq_self.2 (by simpa using this)]
  simp

end FileTree

end VolumeNode
