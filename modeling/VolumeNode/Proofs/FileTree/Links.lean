import VolumeNode.Proofs.FileTree.Named
import VolumeNode.Proofs.FileTree.Place
import VolumeNode.Proofs.FileTree.Rooted

/-!
# Following links

Where a path leads in a file system, told without a walker.

* `Lawful` trees are those that a file system can hold: entries are in directories, and they have
  names that the system gives. The service keeps them so (`Lawful.makeDirectory`,
  `Lawful.removeDirectory`).
* `Leads` follows names and links one by one. It counts the links, and keeps the paths under which
  the places on the way are looked up. There is one way only (`Leads.unique`), and a way along names
  in a row goes by the end of the earlier ones (`Leads.split`).
* `Tells` are stretches of a walk that go where the names lead; a walk in such stretches stops where
  its links run out, and nowhere else (`Tells.follow_iff`). Those of the system are such stretches,
  and so are those that spell out a path, as long as the paths on the way are short.
* So **spelling out a path comes to a place exactly if the names lead there** over few enough links
  and by short enough paths (`realPlace_eq_ok_iff_leads`). What stands at the end is found by its
  path without links as well (`statBytes_path`).
-/

namespace VolumeNode

open Location

/-- A name that the system gives to an entry. -/
structure GivenName (name : Name) : Prop where
  proper : ProperName name
  ne_nil : name ≠ []
  ne_here : name ≠ here
  ne_above : name ≠ above
  length_le : name.length ≤ FileTree.longestName

instance (name : Name) : Decidable (GivenName name) :=
  decidable_of_iff (ProperName name ∧ name ≠ [] ∧ name ≠ here ∧ name ≠ above ∧
    name.length ≤ FileTree.longestName)
    ⟨fun h => ⟨h.1, h.2.1, h.2.2.1, h.2.2.2.1, h.2.2.2.2⟩,
      fun h => ⟨h.proper, h.ne_nil, h.ne_here, h.ne_above, h.length_le⟩⟩

namespace FileTree

variable {t t' : FileTree} {l k : Location} {path : String}

/-! ## 1. Lawful trees -/

/-- A tree that a file system can hold. -/
structure Lawful (t : FileTree) : Prop where
  rooted : t.Rooted
  named : ∀ p ∈ t.entries, ∀ name ∈ p.1, GivenName name

instance (t : FileTree) : Decidable t.Lawful :=
  decidable_of_iff ((∀ p ∈ t.entries, p.1 ≠ [] ∧ t.isDirectory p.1.dropLast = true) ∧
    ∀ p ∈ t.entries, ∀ name ∈ p.1, GivenName name)
    ⟨fun h => ⟨h.1, h.2⟩, fun h => ⟨h.rooted, h.named⟩⟩

/-- A directory is no link. -/
theorem exists_of_isDirectory (hd : t.isDirectory l = true) :
    ∃ e, t.get? l = some e ∧ ∀ target, e ≠ .link target := by
  unfold isDirectory at hd
  cases hget : t.get? l with
  | none =>
    rw [hget] at hd
    cases hd
  | some e =>
    refine ⟨e, rfl, ?_⟩
    rintro target rfl
    rw [hget] at hd
    cases hd

theorem isDirectory_of_device {kind : NodeKind} (hget : t.get? k = some (.device kind)) :
    t.isDirectory k = false := by
  unfold isDirectory
  rw [hget]
  rfl

namespace Lawful

theorem of_get? (h : t.Lawful) {e : Entry} (hget : t.get? l = some e) :
    ∀ name ∈ l, GivenName name := by
  by_cases hl : l = []
  · rw [hl]
    exact nofun
  · exact h.named (l, e) (mem_entries_of_get? hl hget)

/-- Where something stands, a directory is above it. -/
theorem isDirectory_dropLast (h : t.Lawful) {e : Entry} (hget : t.get? l = some e) :
    t.isDirectory l.dropLast = true := by
  by_cases hl : l = []
  · rw [hl]
    rfl
  · exact (h.rooted (l, e) (mem_entries_of_get? hl hget)).2

theorem isDirectory_above (h : t.Lawful) (hd : t.isDirectory l = true) :
    t.isDirectory l.dropLast = true := by
  obtain ⟨_, hget, _⟩ := exists_of_isDirectory hd
  exact h.isDirectory_dropLast hget

/-- All that is above an entry are directories. -/
theorem isDirectory_of_prefix (h : t.Lawful) {e : Entry} (hget : t.get? l = some e)
    (hk : k <+: l) (hne : k ≠ l) : t.isDirectory k = true := by
  induction hn : l.length generalizing l e with
  | zero =>
    rw [List.length_eq_zero_iff.1 hn] at hk hne
    exact absurd (List.prefix_nil.1 hk) hne
  | succ n ih =>
    have hd := h.isDirectory_dropLast hget
    have hk : k <+: l.dropLast := by
      obtain ⟨rest, rfl⟩ := hk
      rw [List.dropLast_append_of_ne_nil]
      · exact List.prefix_append _ _
      · rintro rfl
        exact hne (List.append_nil k).symm
    by_cases hlast : k = l.dropLast
    · rwa [hlast]
    · obtain ⟨_, hget', _⟩ := exists_of_isDirectory hd
      exact ih hget' hk hlast (by rw [List.length_dropLast, hn]; rfl)

/-- No other directory is below an empty one. -/
theorem not_prefix_of_empty (h : t.Lawful) (hempty : ∀ name, t.get? (k ++ [name]) = none)
    (hd : t.isDirectory l = true) (hne : k ≠ l) : ¬ k <+: l := by
  rintro ⟨rest, rfl⟩
  cases rest with
  | nil => exact hne (List.append_nil k).symm
  | cons name rest =>
    obtain ⟨_, hget, _⟩ := exists_of_isDirectory hd
    obtain ⟨e, hbelow⟩ : ∃ e, t.get? (k ++ [name]) = some e := by
      by_cases hend : k ++ [name] = k ++ name :: rest
      · exact ⟨_, hend ▸ hget⟩
      · have hdir := h.isDirectory_of_prefix hget ⟨rest, by simp⟩ hend
        obtain ⟨e, he, _⟩ := exists_of_isDirectory hdir
        exact ⟨e, he⟩
    rw [hempty name] at hbelow
    cases hbelow

/-- A new directory gets a name that the system gives. -/
theorem makeDirectory (h : t.Lawful) {mode : Nat} (hmake : t.makeDirectory path mode = .ok t') :
    t'.Lawful where
  rooted := (change_makeDirectory hmake).rooted h.rooted
  named := by
    obtain ⟨l, name, hslot, _, rfl⟩ := makeDirectory_eq_ok_iff.1 hmake
    obtain ⟨bytes, hbytes, hlast, _, hd, hhere, habove, hlong⟩ := slotOf_eq_named_iff.1 hslot
    obtain ⟨_, hnul, _⟩ := pathBytes_eq_ok_iff.1 hbytes
    have hmem : name ∈ namesOf bytes := List.mem_of_getLast? hlast
    obtain ⟨_, hget, _⟩ := exists_of_isDirectory hd
    intro p hp n hn
    rcases List.mem_append.1 hp with hp | hp
    · exact h.named p hp n hn
    rw [List.mem_singleton.1 hp] at hn
    rcases List.mem_append.1 hn with hn | hn
    · exact h.of_get? hget n hn
    · rw [List.mem_singleton.1 hn]
      exact ⟨properName_of_mem_namesOf hnul hmem, (name_of_mem_namesOf hmem).1, hhere, habove,
        hlong⟩

theorem removeDirectory (h : t.Lawful) (hremove : t.removeDirectory path = .ok t') : t'.Lawful where
  rooted := (change_removeDirectory hremove).rooted h.rooted
  named := by
    obtain ⟨l, name, mode, _, _, _, rfl⟩ := removeDirectory_eq_ok_iff.1 hremove
    exact fun p hp => h.named p (List.mem_filter.1 hp).1

end Lawful

/-! ## 2. Where names lead -/

/-- The paths under which a place is looked up that steps go on from. -/
def lookedUp (l : Location) (rest : List Name) : List (List UInt8) :=
  l.path :: if asksForDirectory rest then [l.path ++ [slash]] else []

/-- Where names lead from a location, links followed: over so many links, with these paths looked up
    on the way. -/
inductive Leads (t : FileTree) :
    Location → List Name → Nat → List (List UInt8) → Location → Prop
  | arrived (l : Location) : Leads t l [] 0 [] l
  | here {l k : Location} {rest : List Name} {links : Nat} {looked : List (List UInt8)}
      (hd : t.isDirectory l = true) (h : Leads t l rest links looked k) :
      Leads t l (Location.here :: rest) links looked k
  | above {l k : Location} {rest : List Name} {links : Nat} {looked : List (List UInt8)}
      (hd : t.isDirectory l = true) (h : Leads t l.dropLast rest links looked k) :
      Leads t l (Location.above :: rest) links looked k
  /-- An entry that is no link. -/
  | down {l k : Location} {name : Name} {rest : List Name} {e : Entry} {links : Nat}
      {looked : List (List UInt8)} (hhere : name ≠ Location.here) (habove : name ≠ Location.above)
      (hd : t.isDirectory l = true) (hget : t.get? (l ++ [name]) = some e)
      (hlink : ∀ target, e ≠ .link target) (h : Leads t (l ++ [name]) rest links looked k) :
      Leads t l (name :: rest) links (lookedUp (l ++ [name]) rest ++ looked) k
  /-- A link: the way goes on along its target. -/
  | link {l k : Location} {name : Name} {rest : List Name} {target : List UInt8} {links : Nat}
      {looked : List (List UInt8)} (hhere : name ≠ Location.here) (habove : name ≠ Location.above)
      (hd : t.isDirectory l = true) (hget : t.get? (l ++ [name]) = some (.link target))
      (h : Leads t (if isAbsolute target then [] else l) (steps target ++ rest) links looked k) :
      Leads t l (name :: rest) (links + 1) ((l ++ [name]).path :: looked) k

/-- Some names lead from a location to another one. -/
def LeadsTo (t : FileTree) (l : Location) (names : List Name) (k : Location) : Prop :=
  ∃ links looked, t.Leads l names links looked k

namespace Leads

variable {names rest : List Name} {links links' : Nat} {looked looked' : List (List UInt8)}

/-- There is one way only. -/
theorem unique (h : t.Leads l names links looked k) {k' : Location}
    (h' : t.Leads l names links' looked' k') : k' = k := by
  induction h generalizing links' looked' with
  | arrived l =>
    cases h'
    rfl
  | here hd h ih =>
    cases h' with
    | here _ h' => exact ih h'
    | down hhere => exact absurd rfl hhere
    | link hhere => exact absurd rfl hhere
  | above hd h ih =>
    cases h' with
    | above _ h' => exact ih h'
    | down _ habove => exact absurd rfl habove
    | link _ habove => exact absurd rfl habove
  | down hhere habove hd hget hlink h ih =>
    cases h' with
    | here => exact absurd rfl hhere
    | above => exact absurd rfl habove
    | down _ _ _ _ _ h' => exact ih h'
    | link _ _ _ hget' =>
      rw [hget] at hget'
      cases hget'
      exact absurd rfl (hlink _)
  | link hhere habove hd hget h ih =>
    cases h' with
    | here => exact absurd rfl hhere
    | above => exact absurd rfl habove
    | down _ _ _ hget' hlink =>
      rw [hget] at hget'
      cases hget'
      exact absurd rfl (hlink _)
    | link _ _ _ hget' h' =>
      rw [hget] at hget'
      cases hget'
      exact ih h'

/-- A way along names in a row goes by the end of the earlier ones. -/
theorem split (h : t.Leads l (names ++ rest) links looked k) :
    ∃ d n seen n' seen', n + n' = links ∧ t.Leads l names n seen d ∧
      t.Leads d rest n' seen' k := by
  generalize hall : names ++ rest = all at h
  induction h generalizing names with
  | arrived l =>
    obtain ⟨rfl, rfl⟩ := List.append_eq_nil_iff.1 hall
    exact ⟨l, 0, [], 0, [], rfl, .arrived l, .arrived l⟩
  | @here l k todo links looked hd h ih =>
    rcases List.append_eq_cons_iff.1 hall with ⟨rfl, rfl⟩ | ⟨names, rfl, rfl⟩
    · exact ⟨l, 0, [], links, looked, Nat.zero_add _, .arrived l, .here hd h⟩
    · obtain ⟨d, n, seen, n', seen', rfl, hfirst, hsecond⟩ := ih rfl
      exact ⟨d, n, seen, n', seen', rfl, .here hd hfirst, hsecond⟩
  | @above l k todo links looked hd h ih =>
    rcases List.append_eq_cons_iff.1 hall with ⟨rfl, rfl⟩ | ⟨names, rfl, rfl⟩
    · exact ⟨l, 0, [], links, looked, Nat.zero_add _, .arrived l, .above hd h⟩
    · obtain ⟨d, n, seen, n', seen', rfl, hfirst, hsecond⟩ := ih rfl
      exact ⟨d, n, seen, n', seen', rfl, .above hd hfirst, hsecond⟩
  | @down l k name todo e links looked hhere habove hd hget hlink h ih =>
    rcases List.append_eq_cons_iff.1 hall with ⟨rfl, rfl⟩ | ⟨names, rfl, rfl⟩
    · exact ⟨l, 0, [], links, _, Nat.zero_add _, .arrived l, .down hhere habove hd hget hlink h⟩
    · obtain ⟨d, n, seen, n', seen', rfl, hfirst, hsecond⟩ := ih rfl
      exact ⟨d, n, _, n', seen', rfl, .down hhere habove hd hget hlink hfirst, hsecond⟩
  | @link l k name todo target links looked hhere habove hd hget h ih =>
    rcases List.append_eq_cons_iff.1 hall with ⟨rfl, rfl⟩ | ⟨names, rfl, rfl⟩
    · exact ⟨l, 0, [], links + 1, _, Nat.zero_add _, .arrived l, .link hhere habove hd hget h⟩
    · obtain ⟨d, n, seen, n', seen', rfl, hfirst, hsecond⟩ := ih (List.append_assoc ..)
      exact ⟨d, n + 1, _, n', seen', Nat.succ_add _ _, .link hhere habove hd hget hfirst, hsecond⟩

/-- Something stands at the end, and it is no link. -/
theorem stands (ht : t.Lawful) (h : t.Leads l names links looked k)
    (hl : ∃ e, t.get? l = some e ∧ ∀ target, e ≠ .link target) :
    ∃ e, t.get? k = some e ∧ ∀ target, e ≠ .link target := by
  induction h with
  | arrived l => exact hl
  | here hd h ih => exact ih hl
  | above hd h ih => exact ih (exists_of_isDirectory (ht.isDirectory_above hd))
  | down hhere habove hd hget hlink h ih => exact ih ⟨_, hget, hlink⟩
  | link hhere habove hd hget h ih =>
    refine ih ?_
    split
    · exact exists_of_isDirectory rfl
    · exact hl

/-- The end of a way that is no directory was looked up, unless the way ended at its start. -/
theorem path_mem (ht : t.Lawful) (h : t.Leads l names links looked k)
    (hk : t.isDirectory k = false) : k = l ∨ k.path ∈ looked := by
  have hno : ∀ m, t.isDirectory m = true → k ≠ m := by
    rintro m hm rfl
    rw [hk] at hm
    cases hm
  induction h with
  | arrived l => exact .inl rfl
  | here hd h ih => exact ih hk hno
  | above hd h ih => exact .inr ((ih hk hno).resolve_left (hno _ (ht.isDirectory_above hd)))
  | @down l k name rest e links looked hhere habove hd hget hlink h ih =>
    refine .inr (List.mem_append.2 ?_)
    refine (ih hk hno).imp (fun heq => ?_) id
    rw [heq]
    exact List.mem_cons_self
  | @link l k name rest target links looked hhere habove hd hget h ih =>
    refine .inr (List.mem_cons_of_mem _ ((ih hk hno).resolve_left ?_))
    split
    · exact hno [] rfl
    · exact hno l hd

/-- A last step that ends at no directory goes by an entry under its name. -/
theorem entry (ht : t.Lawful) {name : Name} (h : t.Leads l [name] links looked k)
    (hk : t.isDirectory k = false) :
    name ≠ Location.here ∧ name ≠ Location.above ∧ t.isDirectory l = true ∧
      ∃ e, t.get? (l ++ [name]) = some e := by
  cases h with
  | here hd h =>
    cases h
    rw [hd] at hk
    cases hk
  | above hd h =>
    cases h
    rw [ht.isDirectory_above hd] at hk
    cases hk
  | down hhere habove hd hget => exact ⟨hhere, habove, hd, _, hget⟩
  | link hhere habove hd hget => exact ⟨hhere, habove, hd, _, hget⟩

end Leads

/-! ## 3. One step -/

/-- Some names lead to a place over so many links, by usable paths only. -/
def LeadsBy (t : FileTree) (usable : List UInt8 → Prop) (l : Location) (names : List Name)
    (links : Nat) (k : Location) : Prop :=
  ∃ looked, t.Leads l names links looked k ∧ ∀ p ∈ looked, usable p

section LeadsBy

variable {usable : List UInt8 → Prop} {name : Name} {rest : List Name} {links : Nat}

theorem leadsBy_nil_iff : t.LeadsBy usable l [] links k ↔ links = 0 ∧ k = l := by
  constructor
  · rintro ⟨looked, h, _⟩
    cases h
    exact ⟨rfl, rfl⟩
  · rintro ⟨rfl, rfl⟩
    exact ⟨[], .arrived _, nofun⟩

/-- Names lead on from a directory only. -/
theorem LeadsBy.isDirectory (h : t.LeadsBy usable l rest links k) (hne : rest ≠ []) :
    t.isDirectory l = true := by
  obtain ⟨looked, h, _⟩ := h
  cases h with
  | arrived => exact absurd rfl hne
  | here hd => exact hd
  | above hd => exact hd
  | down _ _ hd => exact hd
  | link _ _ hd => exact hd

theorem leadsBy_here_iff (hd : t.isDirectory l = true) :
    t.LeadsBy usable l (here :: rest) links k ↔ t.LeadsBy usable l rest links k := by
  constructor
  · rintro ⟨looked, h, husable⟩
    cases h with
    | here _ h => exact ⟨looked, h, husable⟩
    | down hhere => exact absurd rfl hhere
    | link hhere => exact absurd rfl hhere
  · rintro ⟨looked, h, husable⟩
    exact ⟨looked, .here hd h, husable⟩

theorem leadsBy_above_iff (hd : t.isDirectory l = true) :
    t.LeadsBy usable l (above :: rest) links k ↔ t.LeadsBy usable l.dropLast rest links k := by
  constructor
  · rintro ⟨looked, h, husable⟩
    cases h with
    | above _ h => exact ⟨looked, h, husable⟩
    | down _ habove => exact absurd rfl habove
    | link _ habove => exact absurd rfl habove
  · rintro ⟨looked, h, husable⟩
    exact ⟨looked, .above hd h, husable⟩

variable (hhere : name ≠ here) (habove : name ≠ above)

include hhere habove

/-- The place under a name is looked up. -/
theorem LeadsBy.usable_path (h : t.LeadsBy usable l (name :: rest) links k) :
    usable (l ++ [name]).path := by
  obtain ⟨looked, h, husable⟩ := h
  cases h with
  | here => exact absurd rfl hhere
  | above => exact absurd rfl habove
  | down => exact husable _ List.mem_cons_self
  | link => exact husable _ List.mem_cons_self

theorem not_leadsBy_of_vacant (hget : t.get? (l ++ [name]) = none) :
    ¬ t.LeadsBy usable l (name :: rest) links k := by
  rintro ⟨looked, h, _⟩
  cases h with
  | here => exact hhere rfl
  | above => exact habove rfl
  | down _ _ _ hget' =>
    rw [hget] at hget'
    cases hget'
  | link _ _ _ hget' =>
    rw [hget] at hget'
    cases hget'

variable (hd : t.isDirectory l = true)

include hd

theorem leadsBy_down_iff {e : Entry} (hget : t.get? (l ++ [name]) = some e)
    (hlink : ∀ target, e ≠ .link target) :
    t.LeadsBy usable l (name :: rest) links k ↔
      (∀ p ∈ lookedUp (l ++ [name]) rest, usable p) ∧
        t.LeadsBy usable (l ++ [name]) rest links k := by
  constructor
  · rintro ⟨looked, h, husable⟩
    cases h with
    | here => exact absurd rfl hhere
    | above => exact absurd rfl habove
    | down _ _ _ _ _ h =>
      rw [List.forall_mem_append] at husable
      exact ⟨husable.1, _, h, husable.2⟩
    | link _ _ _ hget' =>
      rw [hget] at hget'
      cases hget'
      exact absurd rfl (hlink _)
  · rintro ⟨hhead, looked, h, husable⟩
    exact ⟨_, .down hhere habove hd hget hlink h, List.forall_mem_append.2 ⟨hhead, husable⟩⟩

theorem leadsBy_link_iff {target : List UInt8}
    (hget : t.get? (l ++ [name]) = some (.link target)) :
    t.LeadsBy usable l (name :: rest) links k ↔
      usable (l ++ [name]).path ∧ ∃ n, links = n + 1 ∧
        t.LeadsBy usable (if isAbsolute target then [] else l) (steps target ++ rest) n k := by
  constructor
  · rintro ⟨looked, h, husable⟩
    cases h with
    | here => exact absurd rfl hhere
    | above => exact absurd rfl habove
    | down _ _ _ hget' hlink =>
      rw [hget] at hget'
      cases hget'
      exact absurd rfl (hlink _)
    | link _ _ _ hget' h =>
      rw [hget] at hget'
      cases hget'
      rw [List.forall_mem_cons] at husable
      exact ⟨husable.1, _, rfl, _, h, husable.2⟩
  · rintro ⟨hhead, n, rfl, looked, h, husable⟩
    exact ⟨_, .link hhere habove hd hget h, List.forall_mem_cons.2 ⟨hhead, husable⟩⟩

end LeadsBy

/-! ## 4. Walks -/

/-- What is left of a stretch leads to a place over so many links, by usable paths only. -/
def Reach.LeadsOn (t : FileTree) (usable : List UInt8 → Prop) (links : Nat) (k : Location) :
    Reach → Prop
  | .landed (.entry l) => links = 0 ∧ k = l
  | .detour l target rest => ∃ n, links = n + 1 ∧
      t.LeadsBy usable (if isAbsolute target then [] else l) (steps target ++ rest) n k
  | .landed (.vacant _) | .refused _ => False

/-- Stretches that go where the names lead, as long as the paths on the way are usable. -/
structure Tells (t : FileTree) (usable : List UInt8 → Prop)
    (stretch : Location → List Name → Reach) : Prop where
  leadsOn_iff {l : Location} {todo : List Name} {links : Nat} {k : Location}
    (hd : t.isDirectory l = true) :
    (stretch l todo).LeadsOn t usable links k ↔ t.LeadsBy usable l todo links k
  isDirectory_of_detour {l : Location} {todo : List Name} {d : Location} {target : List UInt8}
    {rest : List Name} (h : stretch l todo = .detour d target rest) : t.isDirectory d = true

/-- A walk in such stretches ends where the names lead over as many links as it may follow. -/
theorem Tells.follow_iff {usable : List UInt8 → Prop} {stretch : Location → List Name → Reach}
    (h : Tells t usable stretch) {budget : Nat} {todo : List Name} (hd : t.isDirectory l = true) :
    follow stretch budget l todo = .ok (.entry k) ↔
      ∃ links ≤ budget, t.LeadsBy usable l todo links k := by
  simp only [← h.leadsOn_iff hd]
  induction budget generalizing l todo with
  | zero =>
    unfold follow
    cases stretch l todo with
    | landed x =>
      cases x with
      | entry m => simp [Reach.LeadsOn, eq_comm]
      | vacant m => simp [Reach.LeadsOn]
    | refused e => simp [Reach.LeadsOn]
    | detour d target rest => simp [Reach.LeadsOn]
  | succ budget ih =>
    unfold follow
    cases hreach : stretch l todo with
    | landed x =>
      cases x with
      | entry m => simp [Reach.LeadsOn, eq_comm]
      | vacant m => simp [Reach.LeadsOn]
    | refused e => simp [Reach.LeadsOn]
    | detour d target rest =>
      have hrestart : t.isDirectory (if isAbsolute target then [] else d) = true := by
        split
        · rfl
        · exact h.isDirectory_of_detour hreach
      show follow stretch budget _ _ = _ ↔ ∃ links ≤ budget + 1, ∃ n, links = n + 1 ∧ _
      rw [ih hrestart]
      simp only [h.leadsOn_iff hrestart]
      constructor
      · rintro ⟨n, hn, hon⟩
        exact ⟨n + 1, Nat.succ_le_succ hn, n, rfl, hon⟩
      · rintro ⟨_, hn, n, rfl, hon⟩
        exact ⟨n, Nat.le_of_succ_le_succ hn, hon⟩

/-- Where steps do not ask for a directory but go on, the walk that spells them out stops at what is
    no directory. -/
theorem exists_spellOut_eq_refused {rest : List Name} (hd : t.isDirectory l = false)
    (hne : rest ≠ []) (hask : asksForDirectory rest = false) :
    ∃ cause, t.spellOut l rest = .refused cause := by
  induction rest with
  | nil => exact absurd rfl hne
  | cons name rest ih =>
    rw [spellOut]
    unfold asksForDirectory at hask
    by_cases hhere : name = here
    · rw [if_pos hhere, Bool.or_eq_false_iff] at hask
      rw [if_pos hhere]
      exact ih (by simpa using hask.1) hask.2
    · rw [if_neg hhere, decide_eq_false_iff_not] at hask
      have hentry : ∃ cause, t.entryUnder l name = .error cause := by
        unfold entryUnder
        rw [hd]
        split
        · exact ⟨_, rfl⟩
        · exact ⟨_, rfl⟩
      obtain ⟨cause, hcause⟩ := hentry
      rw [if_neg hhere, if_neg hask, hcause]
      exact ⟨cause, rfl⟩

/-- Behind an entry that is no link, the walk that spells out goes on as the names lead. -/
theorem leadsOn_behind_iff {name : Name} {rest : List Name} {links : Nat} {e : Entry}
    (hget : t.get? (l ++ [name]) = some e) (hshort : (l ++ [name]).path.length < pathLimit)
    (honward : t.isDirectory (l ++ [name]) = true →
      ((t.spellOut (l ++ [name]) rest).LeadsOn t (·.length < pathLimit) links k ↔
        t.LeadsBy (·.length < pathLimit) (l ++ [name]) rest links k)) :
    (match stopBehind l name rest e with
      | some cause => .refused cause
      | none => t.spellOut (l ++ [name]) rest : Reach).LeadsOn t (·.length < pathLimit) links k ↔
      (∀ p ∈ lookedUp (l ++ [name]) rest, p.length < pathLimit) ∧
        t.LeadsBy (·.length < pathLimit) (l ++ [name]) rest links k := by
  unfold stopBehind lookedUp
  cases hask : asksForDirectory rest with
  | false =>
    simp only [Bool.not_false, Bool.false_eq_true, if_true, if_false, List.forall_mem_singleton,
      hshort, true_and]
    -- what is no directory can only be the end
    by_cases hd : t.isDirectory (l ++ [name]) = true
    · exact honward hd
    by_cases hrest : rest = []
    · subst hrest
      exact leadsBy_nil_iff.symm
    obtain ⟨cause, hcause⟩ := exists_spellOut_eq_refused (by simpa using hd) hrest hask
    rw [hcause]
    exact iff_of_false id fun h => hd (h.isDirectory hrest)
  | true =>
    have hrest : rest ≠ [] := by
      rintro rfl
      cases hask
    have hsame : e.isDirectory = t.isDirectory (l ++ [name]) := by
      unfold FileTree.isDirectory
      rw [hget]
      rfl
    simp only [Bool.not_true, Bool.false_eq_true, if_true, if_false, hsame, List.forall_mem_cons,
      hshort, true_and, List.length_append, List.length_singleton]
    by_cases hroom : (l ++ [name]).path.length + 1 < pathLimit
    · rw [if_neg (Nat.not_le.2 hroom)]
      by_cases hd : t.isDirectory (l ++ [name]) = true
      · simp only [hd, Bool.not_true, Bool.false_eq_true, if_false]
        exact (honward hd).trans (and_iff_right ⟨hroom, nofun⟩).symm
      · simp only [hd, Bool.not_false, if_true]
        exact iff_of_false id fun h => hd (h.2.isDirectory hrest)
    · rw [if_pos (Nat.not_lt.1 hroom)]
      exact iff_of_false id fun h => hroom h.1.1

/-- What is found under a name is in a directory. -/
theorem isDirectory_of_entryUnder {name : Name} {e : Entry} (h : t.entryUnder l name = .ok e) :
    t.isDirectory l = true := by
  unfold entryUnder at h
  split at h
  · cases h
  by_cases hd : t.isDirectory l = true
  · exact hd
  · simp only [hd, Bool.not_false, if_true] at h
    cases h

section Lawful

variable (ht : t.Lawful)

include ht

/-- The system's own stretches need no paths. -/
theorem tells_advance : Tells t (fun _ => True) (t.advance true) where
  leadsOn_iff {l todo links k} hd := by
    induction todo generalizing l with
    | nil => exact leadsBy_nil_iff.symm
    | cons name rest ih =>
      rw [advance]
      simp only [hd, Bool.not_true, Bool.false_eq_true, if_false]
      by_cases hhere : name = here
      · rw [if_pos hhere, hhere, leadsBy_here_iff hd]
        exact ih hd
      by_cases habove : name = above
      · rw [if_neg hhere, if_pos habove, habove, leadsBy_above_iff hd]
        exact ih (ht.isDirectory_above hd)
      rw [if_neg hhere, if_neg habove]
      cases hget : t.get? (l ++ [name]) with
      | none =>
        refine iff_of_false ?_ (not_leadsBy_of_vacant hhere habove hget)
        dsimp only
        split
        · exact id
        split <;> exact id
      | some e =>
        have hlong : ¬ name.length > longestName :=
          Nat.not_lt.2 (ht.of_get? hget name (by simp)).length_le
        rw [if_neg hlong]
        -- what is no directory can only be the end
        have hbehind : (t.advance true (l ++ [name]) rest).LeadsOn t (fun _ => True) links k ↔
            t.LeadsBy (fun _ => True) (l ++ [name]) rest links k := by
          by_cases hd' : t.isDirectory (l ++ [name]) = true
          · exact ih hd'
          · cases rest with
            | nil => exact leadsBy_nil_iff.symm
            | cons n ns =>
              refine iff_of_false ?_ fun h => hd' (h.isDirectory (List.cons_ne_nil n ns))
              rw [advance, if_pos (by simpa using hd')]
              exact id
        cases e with
        | link target =>
          rw [leadsBy_link_iff hhere habove hd hget]
          simp only [Bool.and_false, Bool.false_eq_true, if_false, true_and]
          rfl
        | _ =>
          rw [leadsBy_down_iff hhere habove hd hget (by simp)]
          exact hbehind.trans (and_iff_right fun _ _ => trivial).symm
  isDirectory_of_detour {l todo d target rest} h := by
    induction todo generalizing l with
    | nil => cases h
    | cons name todo ih =>
      rw [advance] at h
      by_cases hd : t.isDirectory l = true
      · simp only [hd, Bool.not_true, Bool.false_eq_true, if_false] at h
        split at h
        · exact ih h
        split at h
        · exact ih h
        split at h
        · cases h
        cases hget : t.get? (l ++ [name]) with
        | none =>
          rw [hget] at h
          dsimp only at h
          split at h <;> cases h
        | some e =>
          rw [hget] at h
          cases e with
          | link held =>
            simp only [Bool.and_false, Bool.false_eq_true, if_false] at h
            cases h
            exact hd
          | _ => exact ih h
      · simp only [hd, Bool.not_false, if_true] at h
        cases h

/-- Under a given name in a directory, an entry is found if its path is short enough. -/
theorem entryUnder_of_get? {name : Name} {e : Entry} (hd : t.isDirectory l = true)
    (hget : t.get? (l ++ [name]) = some e) :
    t.entryUnder l name =
      if (l ++ [name]).path.length < pathLimit then .ok e else .error .nameTooLong := by
  have hlong : ¬ name.length > longestName :=
    Nat.not_lt.2 (ht.of_get? hget name (by simp)).length_le
  unfold entryUnder
  rw [hd, hget, if_neg hlong]
  by_cases hshort : (l ++ [name]).path.length < pathLimit
  · rw [if_neg (Nat.not_le.2 hshort), if_pos hshort]
    rfl
  · rw [if_pos (Nat.not_lt.1 hshort), if_neg hshort]

/-- The stretches that spell out need short paths. -/
theorem tells_spellOut : Tells t (·.length < pathLimit) t.spellOut where
  leadsOn_iff {l todo links k} hd := by
    induction todo generalizing l with
    | nil => exact leadsBy_nil_iff.symm
    | cons name rest ih =>
      by_cases hhere : name = here
      · rw [spellOut, if_pos hhere, hhere, leadsBy_here_iff hd]
        exact ih hd
      by_cases habove : name = above
      · rw [spellOut, if_neg hhere, if_pos habove, habove, leadsBy_above_iff hd]
        exact ih (ht.isDirectory_above hd)
      cases hget : t.get? (l ++ [name]) with
      | none =>
        rw [spellOut, if_neg hhere, if_neg habove]
        refine iff_of_false ?_ (not_leadsBy_of_vacant hhere habove hget)
        cases hentry : t.entryUnder l name with
        | error cause => exact id
        | ok e =>
          rw [get?_of_entryUnder hentry] at hget
          cases hget
      | some e =>
        have hentry := entryUnder_of_get? ht hd hget
        by_cases hshort : (l ++ [name]).path.length < pathLimit
        · rw [if_pos hshort] at hentry
          by_cases hlink : ∃ target, e = .link target
          · obtain ⟨target, rfl⟩ := hlink
            rw [leadsBy_link_iff hhere habove hd hget, spellOut, if_neg hhere, if_neg habove,
              hentry]
            exact (and_iff_right hshort).symm
          rw [not_exists] at hlink
          rw [leadsBy_down_iff hhere habove hd hget hlink, spellOut_cons hhere habove hentry hlink]
          exact leadsOn_behind_iff hget hshort ih
        · rw [if_neg hshort] at hentry
          rw [spellOut, if_neg hhere, if_neg habove, hentry]
          exact iff_of_false id fun h => hshort (h.usable_path hhere habove)
  isDirectory_of_detour {l todo d target rest} h := by
    induction todo generalizing l with
    | nil => cases h
    | cons name todo ih =>
      rw [spellOut] at h
      split at h
      · exact ih h
      split at h
      · exact ih h
      cases hentry : t.entryUnder l name with
      | error cause =>
        rw [hentry] at h
        cases h
      | ok e =>
        rw [hentry] at h
        cases e with
        | link held =>
          cases h
          exact isDirectory_of_entryUnder hentry
        | _ =>
          dsimp only at h
          split at h
          · exact ih h
          split at h
          · cases h
          split at h
          · cases h
          · exact ih h

end Lawful

/-! ## 5. Paths and their ends -/

/-- A path leads to a place by a way that the system can go. -/
structure FollowsTo (t : FileTree) (path : List UInt8) (k : Location) : Prop where
  short : path.length < pathLimit
  way : ∃ links ≤ linkBudget, t.LeadsBy (·.length < pathLimit) [] (steps path) links k

section Lawful

variable (ht : t.Lawful)

include ht

/-- A walk goes where the names lead. -/
theorem land_eq_ok_iff_leads {names : List Name} (hd : t.isDirectory l = true) :
    t.land true l names = .ok (.entry k) ↔
      ∃ links ≤ linkBudget, ∃ looked, t.Leads l names links looked k := by
  unfold land
  rw [(tells_advance ht).follow_iff hd]
  simp only [LeadsBy, implies_true, and_true]

/-- However many links a walk may follow, it goes where the names lead. -/
theorem leadsTo_of_follow {budget : Nat} {names : List Name} (hd : t.isDirectory l = true)
    (h : follow (t.advance true) budget l names = .ok (.entry k)) : t.LeadsTo l names k := by
  obtain ⟨links, _, looked, hleads, _⟩ := ((tells_advance ht).follow_iff hd).1 h
  exact ⟨links, looked, hleads⟩

/-- Where names lead to what is no directory, a walk that does not follow a link at its end finds
    the entry under the last name, in the directory that the others lead to. -/
theorem exists_land_of_leads {names : List Name} {name : Name} {links : Nat}
    {looked : List (List UInt8)} (hd : t.isDirectory l = true)
    (h : t.Leads l (names ++ [name]) links looked k) (hlinks : links ≤ linkBudget)
    (hk : t.isDirectory k = false) :
    ∃ d e, t.LeadsTo l names d ∧ t.land false l (names ++ [name]) = .ok (.entry (d ++ [name])) ∧
      t.get? (d ++ [name]) = some e := by
  obtain ⟨d, n, seen, n', seen', rfl, hfirst, hlast⟩ := h.split
  obtain ⟨hhere, habove, hd', e, hget⟩ := hlast.entry ht hk
  have hlong : ¬ name.length > longestName :=
    Nat.not_lt.2 (ht.of_get? hget name (by simp)).length_le
  have hland : t.land true l names = .ok (.entry d) :=
    (land_eq_ok_iff_leads ht hd).2 ⟨n, (Nat.le_add_right _ _).trans hlinks, seen, hfirst⟩
  obtain ⟨budget, hfollow⟩ := follow_append (List.cons_ne_nil name []) false hland
  have hreach : t.advance false d [name] = .landed (.entry (d ++ [name])) := by
    rw [advance]
    simp only [hd', Bool.not_true, Bool.false_eq_true, if_false]
    rw [if_neg hhere, if_neg habove, if_neg hlong, hget]
    cases e <;> rfl
  refine ⟨d, e, ⟨n, seen, hfirst⟩, ?_, hget⟩
  unfold land
  rw [hfollow]
  cases budget <;> rw [follow, hreach]

/-- **Spelling out a path comes to the place that its names lead to, over as many links as the
    system follows and by short paths only.** -/
theorem realPlace_eq_ok_iff_leads {bytes : List UInt8}
    (hstart : t.isDirectory (t.startOf bytes) = true) :
    t.realPlace bytes = .ok k ↔ 0 ∉ bytes ∧ bytes ≠ [] ∧ ∃ links ≤ linkBudget,
      t.LeadsBy (·.length < pathLimit) (t.startOf bytes) (steps bytes) links k := by
  rw [realPlace_eq_ok_iff, ← (tells_spellOut ht).follow_iff hstart]
  constructor
  · intro ⟨bytes', hbytes, hfollow⟩
    obtain ⟨rfl, hnul, hne⟩ := anyPath_eq_ok_iff.1 hbytes
    exact ⟨hnul, hne, hfollow⟩
  · intro ⟨hnul, hne, hfollow⟩
    exact ⟨_, anyPath_eq_ok_iff.2 ⟨rfl, hnul, hne⟩, hfollow⟩

/-- From a directory, the names of a place below lead straight down to it. -/
theorem leads_of_get? {names : List Name} {e : Entry} (hd : t.isDirectory l = true)
    (hget : t.get? (l ++ names) = some e) (hlink : ∀ target, e ≠ .link target) :
    ∃ looked, t.Leads l names 0 looked (l ++ names) := by
  induction names generalizing l with
  | nil =>
    rw [List.append_nil]
    exact ⟨[], .arrived l⟩
  | cons name rest ih =>
    have hname : GivenName name := ht.of_get? hget name (by simp)
    have hsplit : l ++ name :: rest = (l ++ [name]) ++ rest := by simp
    rw [hsplit] at hget ⊢
    by_cases hrest : rest = []
    · subst hrest
      rw [List.append_nil] at hget ⊢
      exact ⟨_, .down hname.ne_here hname.ne_above hd hget hlink (.arrived _)⟩
    · have hnext : t.isDirectory (l ++ [name]) = true :=
        ht.isDirectory_of_prefix hget (List.prefix_append _ _) (by simpa using hrest)
      obtain ⟨looked, hon⟩ := ih hnext hget
      obtain ⟨e', hget', hlink'⟩ := exists_of_isDirectory hnext
      exact ⟨_, .down hname.ne_here hname.ne_above hd hget' hlink' hon⟩

/-- What stands at a place and is no link is found by the path of the place. -/
theorem statBytes_path {e : Entry} (hget : t.get? k = some e) (hlink : ∀ target, e ≠ .link target)
    (hshort : k.path.length < pathLimit) : t.statBytes k.path = .ok e := by
  refine statBytes_eq_ok_iff.2 ⟨hshort, k, ?_, hget⟩
  rw [startOf_path, land_eq_ok_iff_leads ht rfl]
  refine ⟨0, Nat.zero_le _, ?_⟩
  by_cases hroot : k = []
  · subst hroot
    exact ⟨[], .here rfl (.arrived [])⟩
  · rw [steps_path hroot fun name hname =>
      have hgiven : GivenName name := ht.of_get? hget name hname
      ⟨hgiven.ne_nil, hgiven.proper.1⟩]
    exact leads_of_get? ht (l := []) rfl hget hlink

/-- No links are on the way to what stands at a place and is no link. -/
theorem direct_of_get? {e : Entry} (hget : t.get? k = some e) (hlink : ∀ target, e ≠ .link target) :
    t.Direct k := by
  intro m hm target hm'
  by_cases hend : m = k
  · rw [hend, hget] at hm'
    exact hlink target (Option.some.inj hm')
  · obtain ⟨e', hget', hlink'⟩ := exists_of_isDirectory (ht.isDirectory_of_prefix hget hm hend)
    rw [hget'] at hm'
    exact hlink' target (Option.some.inj hm')

end Lawful

end FileTree

end VolumeNode
