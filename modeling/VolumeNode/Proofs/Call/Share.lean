import VolumeNode.Proofs.Call.Run
import VolumeNode.Proofs.Mount.Stack

/-!
# A share of the mount table

The part of a table that is about some paths and one device.

* An entry is in this share if it is at one of the paths or mounts the device (`concerns`). Tables
  are alike if they have the same share, know the same about the device, and refuse the same
  requests (`AlikeFor`).
* **Requests about these paths and this device are answered alike from alike tables, and leave them
  alike** (`AlikeFor.insert`, `AlikeFor.unmountAt`, `AlikeFor.answer` and so on).
-/

namespace VolumeNode

/-- Two steps give the same answer, and lead to states that go together. -/
def InStep {α σ : Type} (R : σ → σ → Prop) (x y : α × σ) : Prop :=
  x.1 = y.1 ∧ R x.2 y.2

namespace MemoryTable

/-! ## 1. Alike tables -/

/-- Whether an entry is at one of some paths, or mounts a device. -/
def concerns (paths : List String) (node : String) (m : MountEntry) : Bool :=
  paths.contains m.path || m.mountsNode node

/-- Two tables know the same about a device, apart from its mounts, and refuse the same requests. -/
structure Knows (node : String) (s s' : MemoryTable) : Prop where
  filesystem : s.filesystem? node = s'.filesystem? node
  formats : s.timesFormatted node = s'.timesFormatted node
  refused : s.refused = s'.refused

/-- Two tables are the same as far as some paths and a device go. -/
structure AlikeFor (paths : List String) (node : String) (s s' : MemoryTable) : Prop
    extends Knows node s s' where
  entries : s.entries.filter (concerns paths node) = s'.entries.filter (concerns paths node)

variable {paths : List String} {node path : String} {s s' : MemoryTable}

theorem concerns_of_path (node : String) {m : MountEntry} (h : m.path ∈ paths) :
    concerns paths node m = true := by
  unfold concerns
  rw [List.contains_eq_mem, decide_eq_true h, Bool.true_or]

theorem concerns_of_at (node : String) (hpath : path ∈ paths) {m : MountEntry}
    (h : (m.path == path) = true) : concerns paths node m = true :=
  concerns_of_path node ((beq_iff_eq.1 h).symm ▸ hpath)

theorem concerns_of_mountsNode (paths : List String) {m : MountEntry}
    (h : m.mountsNode node = true) : concerns paths node m = true := by
  unfold concerns
  rw [h, Bool.or_true]

/-- An unmount goes on within any part of a table that has all entries of the path. -/
theorem popAt_filter {p : MountEntry → Bool} (hp : ∀ m, m.path = path → p m = true)
    (rs : List MountEntry) : popAt path (rs.filter p) = (popAt path rs).map (·.filter p) := by
  induction rs with
  | nil => rfl
  | cons r rest ih =>
    by_cases hr : p r = true
    · rw [List.filter_cons_of_pos hr, popAt, popAt, ih]
      cases popAt path rest with
      | some rest' => exact congrArg some (List.filter_cons_of_pos hr).symm
      | none => by_cases hpath : r.path = path <;> simp [hpath]
    · have hpath : r.path ≠ path := fun heq => hr (hp r heq)
      rw [List.filter_cons_of_neg hr, popAt, ih]
      cases popAt path rest with
      | some rest' => exact congrArg some (List.filter_cons_of_neg hr).symm
      | none => simp [hpath]

theorem Knows.symm (h : Knows node s s') : Knows node s' s :=
  ⟨h.filesystem.symm, h.formats.symm, h.refused.symm⟩

theorem Knows.trans {s'' : MemoryTable} (h : Knows node s s') (h' : Knows node s' s'') :
    Knows node s s'' :=
  ⟨h.filesystem.trans h'.filesystem, h.formats.trans h'.formats, h.refused.trans h'.refused⟩

namespace AlikeFor

theorem symm (h : AlikeFor paths node s s') : AlikeFor paths node s' s :=
  ⟨h.toKnows.symm, h.entries.symm⟩

theorem trans {s'' : MemoryTable} (h : AlikeFor paths node s s') (h' : AlikeFor paths node s' s'') :
    AlikeFor paths node s s'' :=
  ⟨h.toKnows.trans h'.toKnows, h.entries.trans h'.entries⟩

/-! ## 2. What is read -/

/-- Every choice within the share is the same. -/
theorem filter (h : AlikeFor paths node s s') {p : MountEntry → Bool}
    (hp : ∀ m, p m = true → concerns paths node m = true) :
    s.entries.filter p = s'.entries.filter p := by
  have hshare : ∀ rs : List MountEntry,
      rs.filter p = (rs.filter (concerns paths node)).filter p := by
    intro rs
    rw [List.filter_filter]
    refine List.filter_congr fun m _ => ?_
    cases hm : p m with
    | false => rfl
    | true => rw [hp m hm, Bool.and_true]
  rw [hshare s.entries, hshare s'.entries, h.entries]

theorem entriesOf (h : AlikeFor paths node s s') : s.entriesOf node = s'.entriesOf node :=
  h.filter fun _ => concerns_of_mountsNode paths

theorem entriesAt (h : AlikeFor paths node s s') (hpath : path ∈ paths) :
    s.entriesAt path = s'.entriesAt path :=
  h.filter fun _ => concerns_of_at node hpath

/-- A choice within the share is read alike, or the table cannot be read in either world. -/
theorem read (h : AlikeFor paths node s s') {p : MountEntry → Bool}
    (hp : ∀ m, p m = true → concerns paths node m = true) :
    s.read.map (·.filter p) = s'.read.map (·.filter p) := by
  unfold MemoryTable.read
  rw [h.refused]
  split
  · rfl
  · exact congrArg Except.ok (h.filter hp)

/-- A bind of one of the paths enters the same. -/
theorem bindEntry (h : AlikeFor paths node s s') (hpath : path ∈ paths) (target : String)
    (flags : List String) : s.bindEntry path target flags = s'.bindEntry path target flags := by
  unfold MemoryTable.bindEntry
  rw [h.entriesAt hpath]

/-! ## 3. What is changed -/

theorem insert (h : AlikeFor paths node s s') (m : MountEntry) :
    AlikeFor paths node (s.insert m) (s'.insert m) where
  entries := by
    rw [entries_insert, entries_insert, List.filter_append, List.filter_append, h.entries]
  filesystem := h.filesystem
  formats := h.formats
  refused := h.refused

/-- The device is formatted in both worlds or in none. -/
theorem formatIfBlank (h : AlikeFor paths node s s') (fsType : String) :
    AlikeFor paths node (s.formatIfBlank node fsType) (s'.formatIfBlank node fsType) where
  entries := by rw [entries_formatIfBlank, entries_formatIfBlank, h.entries]
  filesystem := by
    unfold MemoryTable.formatIfBlank
    rw [← h.filesystem]
    cases hfs : s.filesystem? node with
    | some _ => exact h.filesystem
    | none => simp [filesystem?]
  formats := by
    unfold MemoryTable.formatIfBlank
    rw [← h.filesystem]
    cases hfs : s.filesystem? node with
    | some _ => exact h.formats
    | none => simpa [timesFormatted] using h.formats
  refused := by rw [refused_formatIfBlank, refused_formatIfBlank, h.refused]

/-- One of the paths is unmounted in both worlds or in none. -/
theorem unmountAt (h : AlikeFor paths node s s') (hpath : path ∈ paths) :
    InStep (AlikeFor paths node) (s.unmountAt path) (s'.unmountAt path) := by
  have hpop : ∀ rs, popAt path (rs.filter (concerns paths node)) =
      (popAt path rs).map (·.filter (concerns paths node)) :=
    popAt_filter fun m hm => concerns_of_path node (hm ▸ hpath)
  have hsame := hpop s.entries
  rw [h.entries, hpop] at hsame
  unfold MemoryTable.unmountAt
  cases hs : popAt path s.entries with
  | none =>
    cases hs' : popAt path s'.entries with
    | none => exact ⟨rfl, h⟩
    | some rs' =>
      rw [hs, hs'] at hsame
      cases hsame
  | some rs =>
    cases hs' : popAt path s'.entries with
    | none =>
      rw [hs, hs'] at hsame
      cases hsame
    | some rs' =>
      rw [hs, hs'] at hsame
      exact ⟨rfl, ⟨h.filesystem, h.formats, h.refused⟩, (Option.some.inj hsame).symm⟩

/-- Requests are refused alike. -/
theorem answer {α : Type} (h : AlikeFor paths node s s') (kind : MountRequest)
    {reply reply' : Except MountFailure α × MemoryTable}
    (hreply : InStep (AlikeFor paths node) reply reply') :
    InStep (AlikeFor paths node) (s.answer kind reply) (s'.answer kind reply') := by
  unfold MemoryTable.answer
  rw [← h.refused]
  split
  · exact ⟨rfl, h⟩
  · exact hreply

end AlikeFor

end MemoryTable

end VolumeNode
