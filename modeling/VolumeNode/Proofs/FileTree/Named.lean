import VolumeNode.Proofs.FileTree.Walk
import VolumeNode.Proofs.Text.Words

/-!
# The names in a tree

The system separates names by slashes and ends them with a NUL, so no name can hold one of these.

* `WellNamed` trees have no other names. **What the system calls of the service change, they keep
  so** (`WellNamed.makeDirectory`, `WellNamed.removeDirectory`): a new name is cut out of a path,
  and a path with a NUL is refused.
-/

namespace VolumeNode

open Location

/-- A name that a directory can hold. -/
def ProperName (name : Name) : Prop :=
  slash ∉ name ∧ 0 ∉ name

instance (name : Name) : Decidable (ProperName name) :=
  inferInstanceAs (Decidable (_ ∧ _))

/-- The names of a path are proper if the path holds no NUL. -/
theorem properName_of_mem_namesOf {path : List UInt8} (hnul : 0 ∉ path) {name : Name}
    (h : name ∈ namesOf path) : ProperName name := by
  have hpiece : name ∈ Text.splitOn (· == slash) path := (List.mem_filter.1 h).1
  constructor
  case left =>
    intro hslash
    simpa using Text.not_of_mem_splitOn hpiece slash hslash
  case right =>
    intro hzero
    exact hnul (Text.mem_of_mem_splitOn hpiece hzero)

namespace FileTree

variable {t t' : FileTree} {l : Location} {path : String} {mode : Nat}

/-- All names of a tree are proper. -/
def WellNamed (t : FileTree) : Prop :=
  ∀ p ∈ t.entries, ∀ name ∈ p.1, ProperName name

instance (t : FileTree) : Decidable t.WellNamed :=
  inferInstanceAs (Decidable (∀ p ∈ t.entries, ∀ name ∈ p.1, ProperName name))

theorem WellNamed.of_mem_names (h : t.WellNamed) {name : Name} (hname : name ∈ t.names l) :
    ProperName name := by
  unfold names at hname
  obtain ⟨p, hp, hlast⟩ := List.mem_filterMap.1 hname
  split at hlast
  · exact h p hp name (List.mem_of_getLast? hlast)
  · cases hlast

/-- Where something stands, all names are proper. -/
theorem WellNamed.of_get? (h : t.WellNamed) {e : Entry} (hget : t.get? l = some e) :
    ∀ name ∈ l, ProperName name := by
  by_cases hl : l = []
  · rw [hl]
    exact nofun
  · exact h (l, e) (mem_entries_of_get? hl hget)

theorem WellNamed.makeDirectory (h : t.WellNamed) (hmake : t.makeDirectory path mode = .ok t') :
    t'.WellNamed := by
  obtain ⟨l, name, hslot, _, rfl⟩ := makeDirectory_eq_ok_iff.1 hmake
  obtain ⟨bytes, hbytes, hlast, _, hd, _⟩ := slotOf_eq_named_iff.1 hslot
  obtain ⟨_, hnul, _⟩ := pathBytes_eq_ok_iff.1 hbytes
  intro p hp n hn
  rcases List.mem_append.1 hp with hp | hp
  · exact h p hp n hn
  rw [List.mem_singleton.1 hp] at hn
  rcases List.mem_append.1 hn with hn | hn
  · -- the directory of the new entry is in the tree
    unfold isDirectory at hd
    cases hget : t.get? l with
    | none =>
      rw [hget] at hd
      cases hd
    | some e => exact h.of_get? hget n hn
  · rw [List.mem_singleton.1 hn]
    exact properName_of_mem_namesOf hnul (List.mem_of_getLast? hlast)

theorem WellNamed.removeDirectory (h : t.WellNamed) (hremove : t.removeDirectory path = .ok t') :
    t'.WellNamed := by
  obtain ⟨l, name, mode, _, _, _, rfl⟩ := removeDirectory_eq_ok_iff.1 hremove
  exact fun p hp => h p (List.mem_filter.1 hp).1

end FileTree

end VolumeNode
