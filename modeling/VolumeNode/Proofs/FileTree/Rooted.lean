import VolumeNode.Proofs.FileTree.Growth

/-!
# Rooted trees

In a file system every entry is in a directory. A list of entries need not be like that, but the
system calls keep it so.

* `Rooted` trees have every entry in a directory, so there is nothing below a free place
  (`Rooted.names_of_vacant`) or below what is no directory.
* `Change` are the ways in which one system call can change a tree. **They keep trees rooted**
  (`Change.rooted`).
* Each system call that succeeds is such a change (`change_makeDirectory`, `change_unlink`,
  `change_addFile` and so on). Making several directories may stop on the way, and keeps the tree
  rooted even so (`Rooted.makeDirectories`).
* A new directory can be removed, and leaves no trace (`Rooted.removeDirectory_grow`).
-/

namespace VolumeNode.FileTree

open Location

/-! ## 1. Rooted trees -/

/-- Every entry is in a directory. -/
def Rooted (t : FileTree) : Prop :=
  ∀ p ∈ t.entries, p.1 ≠ [] ∧ t.isDirectory p.1.dropLast = true

variable {t t' : FileTree} {l : Location} {path : String}

theorem rooted_empty : empty.Rooted := fun _ hp => absurd hp List.not_mem_nil

/-- A name in a directory belongs to an entry of this directory. -/
theorem Rooted.names_eq_nil_iff (h : t.Rooted) :
    t.names l = [] ↔ ∀ p ∈ t.entries, p.1.dropLast ≠ l := by
  unfold names
  rw [List.filterMap_eq_nil_iff]
  constructor
  · intro hnone p hp hl
    have hlast := hnone p hp
    rw [if_pos hl] at hlast
    exact (h p hp).1 (List.getLast?_eq_none_iff.1 hlast)
  · intro hne p hp
    exact if_neg (hne p hp)

theorem Rooted.names_of_not_directory (h : t.Rooted) (hd : t.isDirectory l = false) :
    t.names l = [] := by
  rw [h.names_eq_nil_iff]
  rintro p hp rfl
  rw [(h p hp).2] at hd
  cases hd

/-- There is nothing below a free place. -/
theorem Rooted.names_of_vacant (h : t.Rooted) (hfree : t.get? l = none) : t.names l = [] := by
  refine h.names_of_not_directory ?_
  unfold isDirectory
  rw [hfree]
  rfl

/-- A new directory without anything in it can be removed, and its neighbours stay. -/
theorem Rooted.removeDirectory_grow (h : t.Rooted) {below above : List (Location × Entry)}
    {name : Name} {mode : Nat} (hslot : t.slotOf path = .ok (.named l name))
    (hfree : t.get? (l ++ [name]) = none)
    (hothers : ∀ p ∈ below ++ above, p.1 ≠ l ++ [name] ∧ p.1.dropLast ≠ l ++ [name]) :
    (t.grow (below ++ (l ++ [name], .directory mode) :: above)).removeDirectory path =
      .ok (t.grow (below ++ above)) := by
  have hbelow : below.lookup (l ++ [name]) = none := by
    rw [List.lookup_eq_none_iff]
    intro p hp
    exact bne_iff_ne.2 (hothers p (List.mem_append_left _ hp)).1.symm
  refine removeDirectory_eq_ok_iff.2 ⟨l, name, mode, slotOf_grow _ hslot, ?_, ?_, ?_⟩
  · rw [get?_grow, hfree, List.lookup_append, hbelow, List.lookup_cons_self]
    rfl
  · have hnone : (FileTree.mk (below ++ (l ++ [name], .directory mode) :: above) []).names
        (l ++ [name]) = [] := by
      unfold names
      rw [List.filterMap_eq_nil_iff]
      intro p hp
      refine if_neg ?_
      rcases List.mem_append.1 hp with hp | hp
      · exact (hothers p (List.mem_append_left _ hp)).2
      rcases List.mem_cons.1 hp with rfl | hp
      · simp
      · exact (hothers p (List.mem_append_right _ hp)).2
    rw [names_grow, h.names_of_vacant hfree, hnone]
    rfl
  · have hold : ∀ p ∈ t.entries, decide (p.1 ≠ l ++ [name]) = true := fun p hp =>
      decide_eq_true (not_mem_of_get?_eq_none hfree p hp)
    have hnew : ∀ p ∈ below ++ above, decide (p.1 ≠ l ++ [name]) = true := fun p hp =>
      decide_eq_true (hothers p hp).1
    have hbelow' := List.filter_eq_self.2 fun p hp => hnew p (List.mem_append_left _ hp)
    have habove' := List.filter_eq_self.2 fun p hp => hnew p (List.mem_append_right _ hp)
    unfold erase grow
    rw [List.filter_append, List.filter_append, List.filter_eq_self.2 hold, hbelow',
      List.filter_cons_of_neg (by simp), habove']

/-! ## 2. One change -/

/-- The ways in which one system call can change a tree. -/
inductive Change (t : FileTree) : FileTree → Prop
  | none : Change t t
  /-- An entry is added to a directory. -/
  | insert (l : Location) (name : Name) (e : Entry) (hd : t.isDirectory l = true) :
      Change t (t.insert (l ++ [name]) e)
  /-- An entry is taken away that has nothing below it. -/
  | erase (l : Location) (hl : l ≠ []) (hempty : t.names l = [] ∨ t.isDirectory l = false) :
      Change t (t.erase l)
  /-- An entry is taken away with all below it. -/
  | eraseBelow (l : Location) : Change t (t.eraseBelow l)

theorem Rooted.insert (h : t.Rooted) {name : Name} (e : Entry) (hd : t.isDirectory l = true) :
    (t.insert (l ++ [name]) e).Rooted := by
  intro p hp
  rcases List.mem_append.1 hp with hp | hp
  · exact ⟨(h p hp).1, isDirectory_grow (h p hp).2 _⟩
  · obtain rfl := List.mem_singleton.1 hp
    refine ⟨by simp, ?_⟩
    rw [List.dropLast_concat]
    exact isDirectory_grow hd _

theorem Rooted.erase (h : t.Rooted) (hl : l ≠ []) (hempty : t.names l = []) :
    (t.erase l).Rooted := by
  intro p hp
  have hp := (List.mem_filter.1 hp).1
  refine ⟨(h p hp).1, ?_⟩
  -- the directory of an entry that stays is not the empty one that goes
  unfold isDirectory
  rw [get?_erase t hl, if_neg (h.names_eq_nil_iff.1 hempty p hp)]
  exact (h p hp).2

theorem lookup_eraseBelow (entries : List (Location × Entry)) {k : Location}
    (hk : l.isPrefixOf k = false) :
    (entries.filter fun p => ! l.isPrefixOf p.1).lookup k = entries.lookup k := by
  induction entries with
  | nil => rfl
  | cons p entries ih =>
    obtain ⟨a, e⟩ := p
    by_cases hka : k = a
    · subst hka
      rw [List.filter_cons_of_pos (by simp [hk]), List.lookup_cons_self, List.lookup_cons_self]
    · rw [List.lookup_cons, beq_eq_false_iff_ne.2 hka]
      cases ha : l.isPrefixOf a with
      | false =>
        rw [List.filter_cons_of_pos (by simp [ha]), List.lookup_cons, beq_eq_false_iff_ne.2 hka]
        exact ih
      | true =>
        rw [List.filter_cons_of_neg (by simp [ha])]
        exact ih

theorem get?_eraseBelow (t : FileTree) {k : Location} (hk : l.isPrefixOf k = false) :
    (t.eraseBelow l).get? k = t.get? k := by
  by_cases hroot : k = []
  · subst hroot
    rfl
  · rw [get?_of_ne_nil _ hroot, get?_of_ne_nil _ hroot]
    exact lookup_eraseBelow t.entries hk

theorem Rooted.eraseBelow (h : t.Rooted) (l : Location) : (t.eraseBelow l).Rooted := by
  intro p hp
  obtain ⟨hp, hstays⟩ := List.mem_filter.1 hp
  refine ⟨(h p hp).1, ?_⟩
  -- with the directory of an entry, the entry would go
  have hk : l.isPrefixOf p.1.dropLast = false := by
    rw [Bool.not_eq_true', ← Bool.not_eq_true, List.isPrefixOf_iff_prefix] at hstays
    rw [← Bool.not_eq_true, List.isPrefixOf_iff_prefix]
    exact fun hbelow => hstays (hbelow.trans (List.dropLast_prefix p.1))
  unfold isDirectory
  rw [get?_eraseBelow t hk]
  exact (h p hp).2

theorem Change.rooted (hchange : Change t t') (h : t.Rooted) : t'.Rooted := by
  cases hchange with
  | none => exact h
  | insert l name e hd => exact h.insert e hd
  | erase l hl hempty =>
    rcases hempty with hempty | hd
    · exact h.erase hl hempty
    · exact h.erase hl (h.names_of_not_directory hd)
  | eraseBelow l => exact h.eraseBelow l

/-! ## 3. System calls -/

theorem isDirectory_of_slotOf {name : Name} (h : t.slotOf path = .ok (.named l name)) :
    t.isDirectory l = true := by
  obtain ⟨_, _, _, _, hd, _⟩ := slotOf_eq_named_iff.1 h
  exact hd

theorem change_makeDirectory {mode : Nat} (h : t.makeDirectory path mode = .ok t') :
    Change t t' := by
  obtain ⟨l, name, hslot, _, rfl⟩ := makeDirectory_eq_ok_iff.1 h
  exact .insert l name _ (isDirectory_of_slotOf hslot)

theorem change_removeDirectory (h : t.removeDirectory path = .ok t') : Change t t' := by
  obtain ⟨l, name, mode, _, _, hempty, rfl⟩ := removeDirectory_eq_ok_iff.1 h
  exact .erase _ (by simp) (.inl hempty)

theorem change_unlink (h : t.unlink path = .ok t') : Change t t' := by
  unfold unlink at h
  obtain ⟨slot, _, h⟩ := bind_eq_ok_iff.1 h
  cases slot with
  | named l name =>
    dsimp only at h
    cases hget : t.get? (l ++ [name]) with
    | none =>
      rw [hget] at h
      cases h
    | some e =>
      rw [hget] at h
      cases e with
      | directory mode => cases h
      | _ =>
        dsimp only at h
        split at h
        · cases h
        cases h
        refine .erase _ (by simp) (.inr ?_)
        unfold isDirectory
        rw [hget]
        rfl
  | _ => cases h

theorem change_bindSocket (h : t.bindSocket path = .ok t') : Change t t' := by
  unfold bindSocket at h
  dsimp only at h
  split at h
  · cases h
  obtain ⟨slot, hslot, h⟩ := bind_eq_ok_iff.1 h
  cases slot with
  | named l name =>
    dsimp only at h
    split at h
    · cases h
    split at h
    · cases h
    cases h
    exact .insert l name _ (isDirectory_of_slotOf hslot)
  | _ => cases h

theorem change_addEntry {e : Entry} (h : t.addEntry path e = .ok t') : Change t t' := by
  unfold addEntry at h
  obtain ⟨slot, hslot, h⟩ := bind_eq_ok_iff.1 h
  cases slot with
  | named l name =>
    dsimp only at h
    split at h
    · cases h
    split at h
    · cases h
    cases h
    exact .insert l name _ (isDirectory_of_slotOf hslot)
  | _ => cases h

theorem change_addLink {target : String} (h : t.addLink path target = .ok t') :
    Change t t' := by
  unfold addLink at h
  obtain ⟨held, _, h⟩ := bind_eq_ok_iff.1 h
  exact change_addEntry h

theorem change_addLinkIn {directory target : String} {name : Name}
    (h : t.addLinkIn directory name target = .ok t') : Change t t' := by
  unfold addLinkIn at h
  obtain ⟨held, _, h⟩ := bind_eq_ok_iff.1 h
  obtain ⟨l, _, h⟩ := bind_eq_ok_iff.1 h
  by_cases hd : t.isDirectory l = true
  · rw [hd] at h
    dsimp only at h
    split at h
    · cases h
    split at h
    · cases h
    split at h
    · cases h
    cases h
    exact .insert l name _ hd
  · rw [if_pos (by simpa using hd)] at h
    cases h

theorem change_removeBranch (h : t.removeBranch path = .ok t') : Change t t' := by
  unfold removeBranch at h
  obtain ⟨slot, _, h⟩ := bind_eq_ok_iff.1 h
  cases slot with
  | named l name =>
    dsimp only at h
    split at h
    · cases h
    cases h
    exact .eraseBelow _
  | _ => cases h

/-- A free place that a stretch ends at is in a directory. -/
theorem isDirectory_of_advance {followLast : Bool} {k : Location} {todo : List Name}
    (h : t.advance followLast l todo = .landed (.vacant k)) :
    ∃ d name, k = d ++ [name] ∧ t.isDirectory d = true := by
  induction todo generalizing l with
  | nil => cases h
  | cons name rest ih =>
    rw [advance] at h
    by_cases hd : t.isDirectory l = true
    · simp only [hd, Bool.not_true, Bool.false_eq_true, if_false] at h
      split at h
      · exact ih h
      split at h
      · exact ih h
      split at h
      · cases h
      cases hget : t.get? (l ++ [name]) with
      | none =>
        rw [hget] at h
        dsimp only at h
        split at h
        · cases h
          exact ⟨l, name, rfl, hd⟩
        · cases h
      | some e =>
        rw [hget] at h
        cases e with
        | link target =>
          dsimp only at h
          split at h <;> cases h
        | _ => exact ih h
    · simp only [hd, Bool.not_false, if_true] at h
      cases h

theorem isDirectory_of_land {followLast : Bool} {k : Location} {todo : List Name}
    (h : t.land followLast l todo = .ok (.vacant k)) :
    ∃ d name, k = d ++ [name] ∧ t.isDirectory d = true := by
  unfold land at h
  generalize linkBudget = budget at h
  induction budget generalizing l todo with
  | zero =>
    unfold follow at h
    cases hreach : t.advance followLast l todo with
    | landed x =>
      rw [hreach] at h
      cases h
      exact isDirectory_of_advance hreach
    | refused e =>
      rw [hreach] at h
      cases h
    | detour d target rest =>
      rw [hreach] at h
      cases h
  | succ budget ih =>
    unfold follow at h
    cases hreach : t.advance followLast l todo with
    | landed x =>
      rw [hreach] at h
      cases h
      exact isDirectory_of_advance hreach
    | refused e =>
      rw [hreach] at h
      cases h
    | detour d target rest =>
      rw [hreach] at h
      exact ih h

theorem change_addFile (h : t.addFile path = .ok t') : Change t t' := by
  unfold addFile at h
  obtain ⟨bytes, _, h⟩ := bind_eq_ok_iff.1 h
  obtain ⟨x, hland, h⟩ := bind_eq_ok_iff.1 h
  cases x with
  | entry k =>
    dsimp only at h
    split at h
    · cases h
    cases h
    exact .none
  | vacant k =>
    cases h
    obtain ⟨l, name, rfl, hd⟩ := isDirectory_of_land hland
    exact .insert l name _ hd

/-! ## 4. Several directories -/

theorem Rooted.ensureDirectory (h : t.Rooted) (path : String) :
    (t.ensureDirectory path).2.Rooted := by
  unfold FileTree.ensureDirectory
  split
  · next t' hmake => exact (change_makeDirectory hmake).rooted h
  · split <;> exact h

theorem Rooted.makeBranch (h : t.Rooted) (absolute : Bool) (names : List Name) :
    (t.makeBranch absolute names).2.Rooted := by
  induction names generalizing t with
  | nil => exact h
  | cons name names ih =>
    unfold FileTree.makeBranch
    dsimp only
    split
    · next t' hmake => exact (change_makeDirectory hmake).rooted h
    split
    · -- those above come first; they stay also if one of them fails
      have habove := ih h
      split
      · next t' hbranch =>
        rw [hbranch] at habove
        exact habove.ensureDirectory _
      · next e t' hbranch =>
        rw [hbranch] at habove
        exact habove
    · split <;> exact h

/-- Making a directory keeps the tree rooted, whether it succeeds or stops on the way. -/
theorem Rooted.makeDirectories (h : t.Rooted) (path : String) :
    (t.makeDirectories path).2.Rooted := by
  unfold FileTree.makeDirectories
  split
  · exact h
  split
  · exact h
  · exact h.makeBranch _ _

end VolumeNode.FileTree
