import VolumeNode.Proofs.FileTree.Walk

/-!
# Trees that lost an entry

Without an entry, a walk goes as before as long as it does not come to that place. There it ends:
the place is free, and nothing lies behind it.

* `advance_erase` and `land_erase`: without the entry, a walk comes to nothing (`Reach.Stopped`), or
  it ends as before, and clear of the place (`Reach.Clear`).
* **`lstat_of_removed`**: the path of a directory that was removed leads nowhere.
-/

namespace VolumeNode.FileTree

open Location

variable {t t' : FileTree} {gone l : Location} {path : String}

/-! ## 1. Stretches -/

/-- A step down stays clear of a place and of all below it, unless it goes there. -/
theorem not_prefix_concat {name : Name} (h : ¬ gone <+: l) (hne : l ++ [name] ≠ gone) :
    ¬ gone <+: l ++ [name] := by
  rw [List.prefix_concat_iff]
  rintro (heq | hunder)
  · exact hne heq.symm
  · exact h hunder

theorem not_prefix_dropLast (h : ¬ gone <+: l) : ¬ gone <+: l.dropLast :=
  fun hunder => h (hunder.trans (List.dropLast_prefix l))

theorem isDirectory_erase (hgone : gone ≠ []) (hne : l ≠ gone) :
    (t.erase gone).isDirectory l = t.isDirectory l := by
  unfold isDirectory
  rw [get?_erase t hgone, if_neg hne]

/-- A stretch ends clear of a place and of all below it. -/
def Reach.Clear (gone : Location) : Reach → Prop
  | .landed (.entry l) | .detour l .. => ¬ gone <+: l
  | .landed (.vacant _) | .refused _ => True

/-- A stretch comes to nothing at a place. -/
def Reach.Stopped (gone : Location) (x : Reach) : Prop :=
  x = .landed (.vacant gone) ∨ x = .refused .noEntry

/-- Without the entry, a stretch comes to nothing, or ends as before and clear of the place. -/
theorem advance_erase (hgone : gone ≠ []) (followLast : Bool) (todo : List Name)
    (h : ¬ gone <+: l) :
    ((t.erase gone).advance followLast l todo).Stopped gone ∨
      (t.erase gone).advance followLast l todo = t.advance followLast l todo ∧
        (t.advance followLast l todo).Clear gone := by
  induction todo generalizing l with
  | nil => exact .inr ⟨rfl, h⟩
  | cons name rest ih =>
    have hne : l ≠ gone := fun heq => h (heq ▸ List.prefix_rfl)
    rw [advance, advance, isDirectory_erase hgone hne]
    by_cases hd : t.isDirectory l = true
    · simp only [hd, Bool.not_true, Bool.false_eq_true, if_false]
      by_cases hhere : name = here
      · rw [if_pos hhere, if_pos hhere]
        exact ih h
      by_cases habove : name = above
      · rw [if_neg hhere, if_pos habove, if_neg hhere, if_pos habove]
        exact ih (not_prefix_dropLast h)
      by_cases hlong : name.length > longestName
      · simp only [hhere, habove, hlong, if_false, if_true]
        exact .inr ⟨trivial, trivial⟩
      simp only [hhere, habove, hlong, if_false]
      rw [get?_erase t hgone]
      by_cases hat : l ++ [name] = gone
      · -- the walk comes to the place
        rw [if_pos hat]
        dsimp only
        split
        · exact .inl (.inl (by rw [hat]))
        · exact .inl (.inr rfl)
      · rw [if_neg hat]
        have hbelow : ¬ gone <+: l ++ [name] := not_prefix_concat h hat
        cases t.get? (l ++ [name]) with
        | none =>
          dsimp only
          split
          · exact .inr ⟨rfl, trivial⟩
          · exact .inr ⟨rfl, trivial⟩
        | some e =>
          cases e with
          | link target =>
            dsimp only
            split
            · exact .inr ⟨rfl, hbelow⟩
            · exact .inr ⟨rfl, h⟩
          | _ => exact ih hbelow
    · simp only [hd, Bool.not_false, if_true]
      exact .inr ⟨trivial, trivial⟩

/-! ## 2. Walks -/

/-- After a link, a walk goes on from the root or from where it stands. -/
theorem not_prefix_restart (hgone : gone ≠ []) (h : ¬ gone <+: l) (target : List UInt8) :
    ¬ gone <+: if isAbsolute target then [] else l := by
  split
  · rwa [List.prefix_nil]
  · exact h

/-- Without the entry, a walk comes to nothing, or ends as before and clear of the place. -/
theorem land_erase (hgone : gone ≠ []) (followLast : Bool) (todo : List Name)
    (h : ¬ gone <+: l) :
    ((t.erase gone).land followLast l todo = .ok (.vacant gone) ∨
        (t.erase gone).land followLast l todo = .error .noEntry) ∨
      (t.erase gone).land followLast l todo = t.land followLast l todo ∧
        ∀ l', t.land followLast l todo = .ok (.entry l') → ¬ gone <+: l' := by
  unfold land
  generalize linkBudget = budget
  induction budget generalizing l todo with
  | zero =>
    unfold follow
    rcases advance_erase (t := t) hgone followLast todo h with (hstop | hstop) | ⟨heq, hclear⟩
    · exact .inl (.inl (by rw [hstop]))
    · exact .inl (.inr (by rw [hstop]))
    · refine .inr ⟨by rw [heq], fun l' hl' => ?_⟩
      cases hreach : t.advance followLast l todo with
      | landed x =>
        rw [hreach] at hl' hclear
        cases hl'
        exact hclear
      | _ =>
        rw [hreach] at hl'
        cases hl'
  | succ budget ih =>
    unfold follow
    rcases advance_erase (t := t) hgone followLast todo h with (hstop | hstop) | ⟨heq, hclear⟩
    · exact .inl (.inl (by rw [hstop]))
    · exact .inl (.inr (by rw [hstop]))
    · rw [heq]
      cases hreach : t.advance followLast l todo with
      | landed x =>
        rw [hreach] at hclear
        refine .inr ⟨rfl, fun l' hl' => ?_⟩
        cases hl'
        exact hclear
      | refused e =>
        refine .inr ⟨rfl, fun l' hl' => ?_⟩
        cases hl'
      | detour k target rest =>
        rw [hreach] at hclear
        exact ih _ (not_prefix_restart hgone hclear target)

/-! ## 3. Removed directories -/

/-- The path of a directory leads to that directory. -/
theorem locate_of_directory {name : Name} {mode : Nat}
    (hslot : t.slotOf path = .ok (.named l name))
    (hget : t.get? (l ++ [name]) = some (.directory mode)) (followLast : Bool) :
    t.locate followLast path = .ok (l ++ [name]) := by
  obtain ⟨bytes, hbytes, hlast, hland, hd, hhere, habove, hlong⟩ := slotOf_eq_named_iff.1 hslot
  obtain ⟨trail, hsteps, htrail⟩ := exists_steps_of_getLast? hlast
  obtain ⟨budget, hfollow⟩ := follow_append (List.cons_ne_nil name trail) followLast hland
  have hdir : t.isDirectory (l ++ [name]) = true := by
    unfold isDirectory
    rw [hget]
    rfl
  have hreach : t.advance followLast l (name :: trail) = .landed (.entry (l ++ [name])) := by
    rw [advance]
    simp only [hd, Bool.not_true, Bool.false_eq_true, if_false]
    rw [if_neg hhere, if_neg habove, if_neg (Nat.not_lt.2 hlong), hget]
    rcases htrail with rfl | rfl
    · rfl
    · show t.advance followLast (l ++ [name]) [here] = _
      rw [advance, hdir]
      rfl
  refine locate_eq_ok_iff.2 ⟨bytes, hbytes, ?_⟩
  unfold land
  rw [hsteps, hfollow]
  cases budget <;> (unfold follow; rw [hreach])

/-- **The path of a removed directory leads nowhere.** Links may have led the walk through that very
    directory, so that now it ends before the last name. -/
theorem lstat_of_removed (hrooted : path.toList.head? = some '/')
    (h : t.removeDirectory path = .ok t') : t'.lstat path = .error .noEntry := by
  obtain ⟨l, name, mode, hslot, hget, _, rfl⟩ := removeDirectory_eq_ok_iff.1 h
  obtain ⟨bytes, hbytes, hland⟩ := locate_eq_ok_iff.1 (locate_of_directory hslot hget false)
  obtain rfl := (pathBytes_eq_ok_iff.1 hbytes).1
  rw [startOf_bytesOf t hrooted] at hland
  have hgone : l ++ [name] ≠ [] := by simp
  rw [lstat_def, locate_def, hbytes]
  show (FileTree.walk _ false (startOf _ _) _ >>= _ : Except SystemError Entry) = _
  rw [startOf_bytesOf _ hrooted]
  unfold walk
  rcases land_erase (t := t) hgone false (steps (Text.bytesOf path))
      (show ¬ l ++ [name] <+: [] by simp) with (hstop | hstop) | ⟨_, hclear⟩
  · rw [hstop]
    rfl
  · rw [hstop]
    rfl
  · exact absurd List.prefix_rfl (hclear _ hland)

end VolumeNode.FileTree
