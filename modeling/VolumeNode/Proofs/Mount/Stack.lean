import Mathlib.Data.List.DropRight
import VolumeNode.Mount.MemoryTable

/-!
# The mounts of a path as a stack

The entries at one path are a stack: a mount puts one on top, an unmount takes the topmost away.

* `popAt_eq_some_iff` says which entry of the table an unmount takes away: the last one at the path.
* `popTimes` unmounts a path so many times. What it leaves is a part of the table, in the old order
  (`popTimes_sublist`); the path loses its topmost entries (`filter_path_popTimes`), other paths
  lose none (`filter_path_popTimes_of_ne`). `popTimes_split` tells where in the table they were.
* **`filter_popTimes_eq_iff`**: a choice of entries comes through unharmed exactly if none of them
  is among the topmost entries taken away.
* `unmountTimes` does the same to a whole table.
-/

namespace VolumeNode.MemoryTable

/-! ## 1. One unmount -/

/-- An unmount takes the last entry at the path away, and no other. -/
theorem popAt_eq_some_iff {path : String} {rs rs' : List MountEntry} :
    popAt path rs = some rs' ↔
      ∃ below x above, rs = below ++ x :: above ∧ rs' = below ++ above ∧ x.path = path ∧
        ∀ y ∈ above, y.path ≠ path := by
  constructor
  · intro h
    induction rs generalizing rs' with
    | nil => simp [popAt] at h
    | cons r rest ih =>
      unfold popAt at h
      cases hp : popAt path rest with
      | some rest' =>
        rw [hp] at h
        simp only [Option.some.injEq] at h
        obtain ⟨below, x, above, h1, h2, hx, habove⟩ := ih hp
        exact ⟨r :: below, x, above, by rw [h1]; rfl, by rw [← h, h2]; rfl, hx, habove⟩
      | none =>
        rw [hp] at h
        by_cases hr : r.path = path
        · simp only [hr, if_true, Option.some.injEq] at h
          exact ⟨[], r, rest, rfl, h.symm, hr, (popAt_eq_none_iff path rest).1 hp⟩
        · simp [hr] at h
  · rintro ⟨below, x, above, rfl, rfl, hx, habove⟩
    induction below with
    | nil =>
      have hnone : popAt path above = none := (popAt_eq_none_iff path above).2 habove
      simp [popAt, hnone, hx]
    | cons r below ih =>
      rw [List.cons_append, popAt, ih]
      rfl

/-- An unmount finds nothing exactly where the stack is empty. -/
theorem popAt_eq_none_iff_filter {path : String} {rs : List MountEntry} :
    popAt path rs = none ↔ rs.filter (·.path == path) = [] := by
  rw [popAt_eq_none_iff, List.filter_eq_nil_iff]
  simp

/-- Entries of other paths on top do not matter. -/
theorem popAt_append {path : String} {above : List MountEntry} (h : ∀ r ∈ above, r.path ≠ path)
    (rs : List MountEntry) : popAt path (rs ++ above) = (popAt path rs).map (· ++ above) := by
  induction rs with
  | nil =>
    rw [List.nil_append, (popAt_eq_none_iff path above).2 h]
    rfl
  | cons r rs ih =>
    rw [List.cons_append, popAt, popAt, ih]
    cases popAt path rs with
    | some rs' => rfl
    | none => by_cases hr : r.path = path <;> simp [hr]

theorem exists_popAt {path : String} {rs : List MountEntry} {m : MountEntry} (hm : m ∈ rs)
    (hpath : m.path = path) : ∃ rs', popAt path rs = some rs' := by
  cases hp : popAt path rs with
  | some rs' => exact ⟨rs', rfl⟩
  | none => exact absurd hpath ((popAt_eq_none_iff path rs).1 hp m hm)

/-- The stack of the path loses its top, and the table loses nothing else. -/
theorem exists_top_of_popAt {path : String} {rs rs' : List MountEntry}
    (h : popAt path rs = some rs') :
    ∃ x, x.path = path ∧ rs.filter (·.path == path) = rs'.filter (·.path == path) ++ [x] ∧
      rs'.Sublist rs ∧
      ∀ p : MountEntry → Bool, rs.countP p = rs'.countP p + if p x then 1 else 0 := by
  obtain ⟨below, x, above, rfl, rfl, hx, habove⟩ := popAt_eq_some_iff.1 h
  have hnil : above.filter (·.path == path) = [] := by
    rw [List.filter_eq_nil_iff]
    intro y hy
    simpa using habove y hy
  refine ⟨x, hx, ?_, ?_, ?_⟩
  · simp [List.filter_append, hnil, hx]
  · exact (List.Sublist.refl below).append (List.sublist_cons_self x above)
  · intro p
    simp only [List.countP_append, List.countP_cons]
    omega

theorem path_bindEntry (s : MemoryTable) (source target : String) (flags : List String) :
    (s.bindEntry source target flags).path = target := by
  unfold bindEntry
  split <;> rfl

theorem options_bindEntry (s : MemoryTable) (source target : String) (flags : List String) :
    (s.bindEntry source target flags).options = optionsOf flags := by
  unfold bindEntry
  split <;> rfl

/-- A bind shows the one entry at its source. -/
theorem bindEntry_of_unique {s : MemoryTable} {source : String} {m : MountEntry}
    (hm : m ∈ s.entries) (hpath : m.path = source) (hone : (s.entriesAt source).length ≤ 1)
    (target : String) (flags : List String) :
    s.bindEntry source target flags = ⟨m.device, m.source, target, m.fsType, optionsOf flags⟩ := by
  have hmem : m ∈ s.entriesAt source := List.mem_filter.2 ⟨hm, by simpa using hpath⟩
  have hat : s.entriesAt source = [m] := by
    cases hs : s.entriesAt source with
    | nil =>
      rw [hs] at hmem
      exact absurd hmem List.not_mem_nil
    | cons x xs =>
      rw [hs] at hmem hone
      obtain rfl : xs = [] :=
        List.eq_nil_of_length_eq_zero (Nat.le_zero.1 (Nat.succ_le_succ_iff.1 hone))
      rw [List.mem_singleton.1 hmem]
  unfold bindEntry
  rw [hat]
  rfl

/-- An unmount that is not refused takes the topmost entry away. -/
theorem unmount_of_popAt {s : MemoryTable} {target : String} {rs : List MountEntry}
    (hpop : popAt target s.entries = some rs)
    (hallowed : MountRequest.unmount ∉ s.refused) (t : FileTree) :
    system.unmount target t s = (.ok (), { s with entries := rs }) := by
  show s.answer .unmount (s.unmountAt target) = _
  rw [answer_of_allowed hallowed, unmountAt, hpop]

theorem unmount_of_refused {s : MemoryTable}
    (hrefused : MountRequest.unmount ∈ s.refused) (target : String) (t : FileTree) :
    system.unmount target t s =
      (.error (.toolFailed MountRequest.unmount.command "injected failure"), s) :=
  answer_of_refused hrefused _

/-! ## 2. Several unmounts -/

/-- Unmounts a path so many times, as far as something is mounted there. -/
def popTimes (path : String) : Nat → List MountEntry → List MountEntry
  | 0, rs => rs
  | n + 1, rs => popTimes path n ((popAt path rs).getD rs)

theorem popTimes_succ_of_popAt {path : String} {rs rs' : List MountEntry}
    (h : popAt path rs = some rs') (n : Nat) :
    popTimes path (n + 1) rs = popTimes path n rs' := by
  rw [popTimes, h]
  rfl

/-- An unmount where nothing is mounted changes nothing. -/
theorem popTimes_of_none {path : String} {rs : List MountEntry} (h : popAt path rs = none)
    (n : Nat) : popTimes path n rs = rs := by
  induction n with
  | zero => rfl
  | succ n ih => rw [popTimes, h]; exact ih

theorem popTimes_sublist (path : String) (n : Nat) (rs : List MountEntry) :
    (popTimes path n rs).Sublist rs := by
  induction n generalizing rs with
  | zero => exact List.Sublist.refl rs
  | succ n ih =>
    cases hp : popAt path rs with
    | none => rw [popTimes_of_none hp]
    | some rs' =>
      obtain ⟨x, _, _, hsub, _⟩ := exists_top_of_popAt hp
      rw [popTimes_succ_of_popAt hp]
      exact (ih rs').trans hsub

theorem popTimes_append {path : String} {above : List MountEntry} (h : ∀ r ∈ above, r.path ≠ path)
    (n : Nat) (rs : List MountEntry) :
    popTimes path n (rs ++ above) = popTimes path n rs ++ above := by
  induction n generalizing rs with
  | zero => rfl
  | succ n ih =>
    have happend := popAt_append h rs
    cases hp : popAt path rs with
    | none =>
      rw [hp] at happend
      rw [popTimes_of_none hp, popTimes_of_none happend]
    | some rs' =>
      rw [hp] at happend
      rw [popTimes_succ_of_popAt hp, popTimes_succ_of_popAt happend, ih]

/-- **Unmounts clear the path out of the end of the table that holds so many entries of it.** -/
theorem popTimes_split (path : String) (below above : List MountEntry) :
    popTimes path (above.filter (·.path == path)).length (below ++ above) =
      below ++ above.filter (·.path != path) := by
  induction above using List.reverseRecOn with
  | nil => rfl
  | append_singleton above r ih =>
    by_cases hr : r.path = path
    · have hpop : popAt path (below ++ (above ++ [r])) = some (below ++ above) :=
        popAt_eq_some_iff.2 ⟨below ++ above, r, [], by simp, by simp, hr, by simp⟩
      simp only [List.filter_append, List.filter_cons, hr, beq_self_eq_true, bne_self_eq_false,
        if_true, Bool.false_eq_true, if_false, List.filter_nil, List.length_append,
        List.length_singleton, List.append_nil]
      rw [popTimes_succ_of_popAt hpop, ih]
    · have hother : ∀ q ∈ [r], q.path ≠ path := by simpa using hr
      have hfree : [r].filter (·.path == path) = [] := by simpa using hr
      have hkept : [r].filter (·.path != path) = [r] := by simpa using hr
      rw [List.filter_append, hfree, List.append_nil, List.filter_append, hkept,
        ← List.append_assoc, popTimes_append hother, ih, List.append_assoc]

/-- The path loses its topmost entries. -/
theorem filter_path_popTimes (path : String) (n : Nat) (rs : List MountEntry) :
    (popTimes path n rs).filter (·.path == path) = (rs.filter (·.path == path)).rdrop n := by
  induction n generalizing rs with
  | zero => rw [List.rdrop_zero]; rfl
  | succ n ih =>
    cases hp : popAt path rs with
    | none => rw [popTimes_of_none hp, popAt_eq_none_iff_filter.1 hp, List.rdrop_nil]
    | some rs' =>
      obtain ⟨x, _, htop, _, _⟩ := exists_top_of_popAt hp
      rw [popTimes_succ_of_popAt hp, ih, htop, List.rdrop_concat_succ]

/-- Other paths lose nothing. -/
theorem filter_path_popTimes_of_ne {path q : String} (hq : q ≠ path) (n : Nat)
    (rs : List MountEntry) :
    (popTimes path n rs).filter (·.path == q) = rs.filter (·.path == q) := by
  induction n generalizing rs with
  | zero => rfl
  | succ n ih =>
    cases hp : popAt path rs with
    | none => rw [popTimes_of_none hp]
    | some rs' => rw [popTimes_succ_of_popAt hp, ih, filter_popAt hp q, if_neg hq]

theorem mem_popTimes_of_path_ne {path : String} {rs : List MountEntry} {m : MountEntry}
    (hm : m ∈ rs) (hne : m.path ≠ path) (n : Nat) : m ∈ popTimes path n rs := by
  have hat : m ∈ rs.filter (·.path == m.path) := List.mem_filter.2 ⟨hm, by simp⟩
  rw [← filter_path_popTimes_of_ne hne n rs] at hat
  exact (List.mem_filter.1 hat).1

/-- Each entry is kept or is one of those taken away. -/
theorem countP_popTimes (path : String) (p : MountEntry → Bool) (n : Nat)
    (rs : List MountEntry) :
    (popTimes path n rs).countP p + ((rs.filter (·.path == path)).rtake n).countP p =
      rs.countP p := by
  induction n generalizing rs with
  | zero => simp [popTimes]
  | succ n ih =>
    cases hp : popAt path rs with
    | none =>
      rw [popTimes_of_none hp, popAt_eq_none_iff_filter.1 hp, List.rtake_nil, List.countP_nil]
      rfl
    | some rs' =>
      obtain ⟨x, _, htop, _, hcount⟩ := exists_top_of_popAt hp
      have ih := ih rs'
      rw [popTimes_succ_of_popAt hp, htop, List.rtake_concat_succ, List.countP_append,
        List.countP_singleton, hcount p]
      omega

/-- **A choice of entries comes through exactly if none of them is taken away.** -/
theorem filter_popTimes_eq_iff (path : String) (p : MountEntry → Bool) (n : Nat)
    (rs : List MountEntry) :
    (popTimes path n rs).filter p = rs.filter p ↔
      ∀ x ∈ (rs.filter (·.path == path)).rtake n, p x = false := by
  have hcount := countP_popTimes path p n rs
  have hsub := (popTimes_sublist path n rs).filter p
  constructor
  · intro h x hx
    have hlen : (popTimes path n rs).countP p = rs.countP p := by
      rw [List.countP_eq_length_filter, h, ← List.countP_eq_length_filter]
    have hzero : ((rs.filter (·.path == path)).rtake n).countP p = 0 := by omega
    simpa using List.countP_eq_zero.1 hzero x hx
  · intro h
    have hzero : ((rs.filter (·.path == path)).rtake n).countP p = 0 := by
      rw [List.countP_eq_zero]
      intro x hx
      simp [h x hx]
    refine hsub.eq_of_length ?_
    rw [← List.countP_eq_length_filter, ← List.countP_eq_length_filter]
    omega

/-! ## 3. Unmounts of the table -/

/-- The table after so many unmounts of a path. -/
def unmountTimes (s : MemoryTable) (target : String) (n : Nat) : MemoryTable :=
  { s with entries := popTimes target n s.entries }

theorem unmountTimes_one_of_popAt {s : MemoryTable} {path : String} {rs : List MountEntry}
    (h : popAt path s.entries = some rs) : s.unmountTimes path 1 = { s with entries := rs } := by
  unfold unmountTimes
  rw [popTimes_succ_of_popAt h]
  rfl

theorem entriesAt_unmountTimes (s : MemoryTable) (path : String) (n : Nat) :
    (s.unmountTimes path n).entriesAt path = (s.entriesAt path).rdrop n :=
  filter_path_popTimes path n s.entries

/-- Unmounts that find something change the table. -/
theorem entries_unmountTimes_ne {s : MemoryTable} {path : String} {n : Nat} (hn : n ≠ 0)
    (hat : s.entriesAt path ≠ []) : (s.unmountTimes path n).entries ≠ s.entries := by
  intro hsame
  have hat' := entriesAt_unmountTimes s path n
  unfold entriesAt at hat' hat
  rw [hsame] at hat'
  have hlen := congrArg List.length hat'
  rw [List.rdrop, List.length_take] at hlen
  have hpos := List.length_pos_iff.2 hat
  omega

end VolumeNode.MemoryTable
