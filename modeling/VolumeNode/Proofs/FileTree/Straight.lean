import VolumeNode.Proofs.FileTree.Removal
import VolumeNode.Proofs.Volume.Lookup

/-!
# Straight ways to a device

A path may lead into a directory and back out of it by `..`. It is lost with that directory, even if
nothing on the way to its end was in there.

* A path goes straight on at a place (`FileTree.Straight`) if neither the path nor a link on its way
  goes up from there.
* Without an empty directory, a path that goes straight on at it still leads to its end, unless it
  ended at that directory (`locateBytes_erase_of_straight`, `realPlace_erase_of_straight`).
* `DeviceNaming.ClearOf` says that a device is looked up straight on at a path, and
  `DeviceNaming.Outside` that a path is outside the directory of links. **The device of a volume is
  found still when such a directory was removed** (`device_erase`).
-/

namespace VolumeNode

open Location

/-! ## 1. Steps that go on -/

/-- Whether steps from a location, links aside, do not go up from a place. -/
def onward (gone : Location) : Location → List Name → Bool
  | _, [] => true
  | l, name :: rest =>
    if name = here then onward gone l rest
    else if name = above then l != gone && onward gone l.dropLast rest
    else onward gone (l ++ [name]) rest

namespace FileTree

/-- Whether no stretch of a walk goes up from a place. -/
def goesOnward (gone : Location) (stretch : Location → List Name → Reach) :
    Nat → Location → List Name → Bool
  | 0, l, todo => onward gone l todo
  | budget + 1, l, todo =>
    onward gone l todo &&
      match stretch l todo with
      | .detour l target rest =>
        goesOnward gone stretch budget (if isAbsolute target then [] else l) (steps target ++ rest)
      | _ => true

/-- A path goes straight on at a place, however it is walked. -/
def Straight (t : FileTree) (gone : Location) (path : List UInt8) : Prop :=
  ∀ stretch ∈ [t.advance true, t.advance false, t.spellOut],
    goesOnward gone stretch linkBudget (t.startOf path) (steps path) = true

instance (t : FileTree) (gone : Location) (path : List UInt8) : Decidable (t.Straight gone path) :=
  inferInstanceAs (Decidable (∀ stretch ∈ _, _ = true))

variable {t t' : FileTree} {gone l : Location} {path : List UInt8}

/-! ## 2. Walks without a directory -/

theorem entryUnder_erase {name : Name} (hgone : gone ≠ []) (hl : ¬ gone <+: l)
    (hat : l ++ [name] ≠ gone) :
    (t.erase gone).entryUnder l name = t.entryUnder l name := by
  unfold entryUnder
  rw [isDirectory_erase hgone fun heq => hl (heq ▸ List.prefix_rfl), get?_erase t hgone, if_neg hat]

section Erase

variable {mode : Nat} (hgone : gone ≠ []) (hget : t.get? gone = some (.directory mode))
  (hempty : ∀ name, t.get? (gone ++ [name]) = none)

section Empty

include hempty

/-- From an empty directory, steps that do not go up from it end there if anywhere. -/
theorem advance_of_empty (followLast : Bool) {todo : List Name} (hon : onward gone gone todo = true)
    (h : (t.advance followLast gone todo).Sure) :
    t.advance followLast gone todo = .landed (.entry gone) := by
  induction todo with
  | nil => rfl
  | cons name rest ih =>
    rw [onward] at hon
    rw [advance] at h ⊢
    by_cases hd : t.isDirectory gone = true
    · simp only [hd, Bool.not_true, Bool.false_eq_true, if_false] at h ⊢
      by_cases hhere : name = here
      · rw [if_pos hhere] at h hon ⊢
        exact ih hon h
      by_cases habove : name = above
      · rw [if_neg hhere, if_pos habove, bne_self_eq_false] at hon
        cases hon
      rw [if_neg hhere, if_neg habove, hempty] at h
      split at h
      · exact h.elim
      · dsimp only at h
        split at h <;> exact h.elim
    · simp only [hd, Bool.not_false, if_true] at h
      exact h.elim

theorem spellOut_of_empty {todo : List Name} (hon : onward gone gone todo = true)
    (h : (t.spellOut gone todo).Sure) : t.spellOut gone todo = .landed (.entry gone) := by
  induction todo with
  | nil => rfl
  | cons name rest ih =>
    rw [onward] at hon
    rw [spellOut] at h ⊢
    by_cases hhere : name = here
    · rw [if_pos hhere] at h hon ⊢
      exact ih hon h
    by_cases habove : name = above
    · rw [if_neg hhere, if_pos habove, bne_self_eq_false] at hon
      cases hon
    · have hentry : ∃ e, t.entryUnder gone name = .error e := by
        unfold entryUnder
        rw [hempty]
        split
        · exact ⟨_, rfl⟩
        split
        · exact ⟨_, rfl⟩
        split <;> exact ⟨_, rfl⟩
      obtain ⟨e, he⟩ := hentry
      rw [if_neg hhere, if_neg habove, he] at h
      exact h.elim

end Empty

/-- Whether without an entry a stretch ends as before and clear of the place, as far as it led to
    something else. -/
def Reach.Kept (gone : Location) (before after : Reach) : Prop :=
  before.Sure → before = .landed (.entry gone) ∨ after = before ∧ before.Clear gone

theorem Reach.Kept.landed {before after : Reach} {k : Location} (h : before.Kept gone after)
    (hbefore : before = .landed (.entry k)) (hk : k ≠ gone) : after = .landed (.entry k) := by
  subst hbefore
  rcases h trivial with hend | ⟨hsame, _⟩
  · cases hend
    exact absurd rfl hk
  · exact hsame

theorem Reach.Kept.detour {before after : Reach} {k : Location} {target : List UInt8}
    {rest : List Name} (h : before.Kept gone after) (hbefore : before = .detour k target rest) :
    after = .detour k target rest ∧ ¬ gone <+: k := by
  subst hbefore
  rcases h trivial with hend | hsame
  · cases hend
  · exact hsame

include hgone hget hempty

theorem advance_erase_of_onward (followLast : Bool) {todo : List Name} (hl : ¬ gone <+: l)
    (hon : onward gone l todo = true) :
    (t.advance followLast l todo).Kept gone ((t.erase gone).advance followLast l todo) := by
  intro h
  induction todo generalizing l with
  | nil => exact .inr ⟨rfl, hl⟩
  | cons name rest ih =>
    have hne : l ≠ gone := fun heq => hl (heq ▸ List.prefix_rfl)
    rw [onward] at hon
    rw [advance] at h ⊢
    rw [advance, isDirectory_erase hgone hne]
    by_cases hd : t.isDirectory l = true
    · simp only [hd, Bool.not_true, Bool.false_eq_true, if_false] at h ⊢
      by_cases hhere : name = here
      · rw [if_pos hhere] at h hon ⊢
        rw [if_pos hhere]
        exact ih hl hon h
      by_cases habove : name = above
      · rw [if_neg hhere, if_pos habove] at h hon ⊢
        rw [if_neg hhere, if_pos habove]
        exact ih (not_prefix_dropLast hl) (Bool.and_eq_true_iff.1 hon).2 h
      rw [if_neg hhere, if_neg habove] at hon
      by_cases hlong : name.length > longestName
      · rw [if_neg hhere, if_neg habove, if_pos hlong] at h
        exact h.elim
      rw [if_neg hhere, if_neg habove, if_neg hlong] at h ⊢
      rw [if_neg hhere, if_neg habove, if_neg hlong, get?_erase t hgone]
      by_cases hat : l ++ [name] = gone
      · -- the stretch comes to the directory, and stays
        rw [hat] at hon
        rw [hat, hget] at h ⊢
        exact .inl (advance_of_empty hempty followLast hon h)
      · rw [if_neg hat]
        have hbelow : ¬ gone <+: l ++ [name] := not_prefix_concat hl hat
        cases hnext : t.get? (l ++ [name]) with
        | none =>
          rw [hnext] at h
          dsimp only at h
          split at h <;> exact h.elim
        | some e =>
          rw [hnext] at h
          cases e with
          | link target =>
            dsimp only
            split
            · exact .inr ⟨rfl, hbelow⟩
            · exact .inr ⟨rfl, hl⟩
          | _ => exact ih hbelow hon h
    · simp only [hd, Bool.not_false, if_true] at h
      exact h.elim

theorem spellOut_erase_of_onward {todo : List Name} (hl : ¬ gone <+: l)
    (hon : onward gone l todo = true) :
    (t.spellOut l todo).Kept gone ((t.erase gone).spellOut l todo) := by
  intro h
  induction todo generalizing l with
  | nil => exact .inr ⟨rfl, hl⟩
  | cons name rest ih =>
    rw [onward] at hon
    by_cases hhere : name = here
    · rw [if_pos hhere] at hon
      rw [spellOut, if_pos hhere] at h ⊢
      rw [spellOut, if_pos hhere]
      exact ih hl hon h
    by_cases habove : name = above
    · rw [if_neg hhere, if_pos habove] at hon
      rw [spellOut, if_neg hhere, if_pos habove] at h ⊢
      rw [spellOut, if_neg hhere, if_pos habove]
      exact ih (not_prefix_dropLast hl) (Bool.and_eq_true_iff.1 hon).2 h
    rw [if_neg hhere, if_neg habove] at hon
    cases hentry : t.entryUnder l name with
    | error e =>
      rw [spellOut, if_neg hhere, if_neg habove, hentry] at h
      exact h.elim
    | ok e =>
      have hthere : t.get? (l ++ [name]) = some e := get?_of_entryUnder hentry
      by_cases hat : l ++ [name] = gone
      · -- the stretch comes to the directory, and stays
        obtain rfl : e = .directory mode := by
          rw [hat, hget] at hthere
          exact (Option.some.inj hthere).symm
        rw [spellOut_cons hhere habove hentry fun _ heq => by cases heq] at h ⊢
        cases hstop : stopBehind l name rest (.directory mode) with
        | some cause =>
          rw [hstop] at h
          exact h.elim
        | none =>
          rw [hstop, hat] at h
          rw [hat] at hon ⊢
          exact .inl (spellOut_of_empty hempty hon h)
      have hafter : (t.erase gone).entryUnder l name = .ok e := by
        rw [entryUnder_erase hgone hl hat, hentry]
      by_cases hlink : ∃ target, e = .link target
      · obtain ⟨target, rfl⟩ := hlink
        rw [spellOut, spellOut, if_neg hhere, if_neg habove, if_neg hhere, if_neg habove, hentry,
          hafter]
        exact .inr ⟨rfl, hl⟩
      · have hlink : ∀ target, e ≠ .link target := fun target heq => hlink ⟨target, heq⟩
        rw [spellOut_cons hhere habove hentry hlink] at h ⊢
        rw [spellOut_cons hhere habove hafter hlink]
        cases hstop : stopBehind l name rest e with
        | some cause =>
          rw [hstop] at h
          exact h.elim
        | none =>
          rw [hstop] at h
          exact ih (not_prefix_concat hl hat) hon h

omit hget hempty in
/-- What keeps each stretch keeps a walk that ends at something else. -/
theorem follow_of_kept {stretch stretch' : Location → List Name → Reach}
    (hkept : ∀ l todo, ¬ gone <+: l → onward gone l todo = true →
      (stretch l todo).Kept gone (stretch' l todo)) {budget : Nat} {l' : Location}
    {todo : List Name} (hl : ¬ gone <+: l) (hon : goesOnward gone stretch budget l todo = true)
    (h : follow stretch budget l todo = .ok (.entry l')) (hne : l' ≠ gone) :
    follow stretch' budget l todo = .ok (.entry l') := by
  induction budget generalizing l todo with
  | zero =>
    unfold follow at h ⊢
    cases hreach : stretch l todo with
    | landed x =>
      rw [hreach] at h
      cases h
      rw [(hkept l todo hl hon).landed hreach hne]
    | refused e =>
      rw [hreach] at h
      cases h
    | detour k target rest =>
      rw [hreach] at h
      cases h
  | succ budget ih =>
    unfold goesOnward at hon
    rw [Bool.and_eq_true] at hon
    unfold follow at h ⊢
    cases hreach : stretch l todo with
    | landed x =>
      rw [hreach] at h
      cases h
      rw [(hkept l todo hl hon.1).landed hreach hne]
    | refused e =>
      rw [hreach] at h
      cases h
    | detour k target rest =>
      rw [hreach] at h hon
      obtain ⟨hafter, hclear⟩ := (hkept l todo hl hon.1).detour hreach
      rw [hafter]
      exact ih (not_prefix_restart hgone hclear target) hon.2 h

theorem locateBytes_erase_of_straight {l' : Location} {followLast : Bool}
    (hpath : t.Straight gone path) (hstart : ¬ gone <+: t.startOf path)
    (h : t.locateBytes followLast path = .ok l') (hne : l' ≠ gone) :
    (t.erase gone).locateBytes followLast path = .ok l' := by
  obtain ⟨bytes, hbytes, hland⟩ := locateBytes_eq_ok_iff.1 h
  obtain rfl := (shortPath_eq_ok_iff.1 hbytes).1
  have hon : goesOnward gone (t.advance followLast) linkBudget (t.startOf bytes) (steps bytes) =
      true := by
    cases followLast
    · exact hpath _ (by simp)
    · exact hpath _ (by simp)
  refine locateBytes_eq_ok_iff.2 ⟨_, hbytes, ?_⟩
  exact follow_of_kept hgone (fun _ _ => advance_erase_of_onward hgone hget hempty followLast)
    hstart hon hland hne

/-- The place without links stays the same, unless it is that of the directory. -/
theorem realPlace_erase_of_straight {l' : Location} (hpath : t.Straight gone path)
    (hstart : ¬ gone <+: t.startOf path) (h : t.realPlace path = .ok l') (hne : l' ≠ gone) :
    (t.erase gone).realPlace path = .ok l' := by
  obtain ⟨bytes, hbytes, hfollow⟩ := realPlace_eq_ok_iff.1 h
  obtain rfl := (anyPath_eq_ok_iff.1 hbytes).1
  refine realPlace_eq_ok_iff.2 ⟨_, hbytes, ?_⟩
  exact follow_of_kept hgone (fun _ _ => spellOut_erase_of_onward hgone hget hempty) hstart
    (hpath _ (by simp)) hfollow hne

end Erase

end FileTree

/-! ## 3. The device of a volume -/

/-- The look-up of a device neither starts at the place of a path nor goes up from there: along the
    path of the directory of links, along that of the link, and along what links on the way hold. -/
structure DeviceNaming.ClearOf (naming : DeviceNaming) (t : FileTree) (path volume : String) :
    Prop where
  start : placeOf path ≠ t.startOf naming.directory
  directory : t.Straight (placeOf path) naming.directory
  link : t.Straight (placeOf path) (naming.linkPath volume)

instance (naming : DeviceNaming) (t : FileTree) (path volume : String) :
    Decidable (naming.ClearOf t path volume) :=
  decidable_of_iff (placeOf path ≠ t.startOf naming.directory ∧
    t.Straight (placeOf path) naming.directory ∧ t.Straight (placeOf path) (naming.linkPath volume))
    ⟨fun h => ⟨h.1, h.2.1, h.2.2⟩, fun h => ⟨h.start, h.directory, h.link⟩⟩

/-- A path names a place outside the directory of links. -/
def DeviceNaming.Outside (naming : DeviceNaming) (t : FileTree) (path : String) : Prop :=
  ∀ l, t.locateBytes true naming.directory = .ok l → ¬ l <+: placeOf path

instance (naming : DeviceNaming) (t : FileTree) (path : String) :
    Decidable (naming.Outside t path) :=
  match h : t.locateBytes true naming.directory with
  | .error _ => .isTrue fun l hl => by cases h.symm.trans hl
  | .ok l => decidable_of_iff (¬ l <+: placeOf path)
      ⟨fun hout k hk => by cases h.symm.trans hk; exact hout, fun hout => hout l h⟩

namespace FileTree

variable {t t' : FileTree} {path : String}

/-- A name stays listed if another place was erased. -/
theorem mem_names_erase {gone l : Location} {name : Name} (h : name ∈ t.names l)
    (hne : l ++ [name] ≠ gone) : name ∈ (t.erase gone).names l := by
  obtain ⟨p, hp, hname⟩ := List.mem_filterMap.1 h
  refine List.mem_filterMap.2 ⟨p, List.mem_filter.2 ⟨hp, decide_eq_true ?_⟩, hname⟩
  rintro rfl
  split at hname
  · rename_i hl
    obtain ⟨front, hfront⟩ := List.getLast?_eq_some_iff.1 hname
    rw [hfront, List.dropLast_concat] at hl
    exact hne (hl ▸ hfront.symm)
  · cases hname

/-- A node stays where it is if another entry is erased. -/
theorem nodeAt_erase {gone k : Location} {kind : NodeKind} (ht' : (t.erase gone).Lawful)
    (hgone : gone ≠ []) (hnode : t.get? k = some (.device kind)) (hk : k ≠ gone)
    (h : DeviceNaming.NodeAt t k) : DeviceNaming.NodeAt (t.erase gone) k := by
  obtain ⟨_, hstat, _⟩ := h
  have hstays : (t.erase gone).get? k = some (.device kind) := by
    rw [get?_erase t hgone, if_neg hk, hnode]
  exact ⟨_, statBytes_path ht' hstays nofun (statBytes_eq_ok_iff.1 hstat).1, rfl⟩

/-- Without an empty directory outside, a way to a device leads as before where it goes straight
    on. -/
theorem device_erase_of_way {naming : DeviceNaming} {volume : String} {l k : Location} {mode : Nat}
    (ht : t.Lawful) (ht' : (t.erase (placeOf path)).Lawful) (hne : placeOf path ≠ [])
    (hget : t.get? (placeOf path) = some (.directory mode))
    (hempty : ∀ name, t.get? (placeOf path ++ [name]) = none)
    (hclear : naming.ClearOf t path volume) (houtside : naming.Outside t path)
    (hway : naming.Way t volume l k) :
    naming.device (t.erase (placeOf path)) volume =
      .ok ⟨naming.linkText volume, k.text, naming.linkOf volume⟩ := by
  obtain ⟨kind, hnode⟩ := hway.node
  obtain ⟨e, hentry⟩ := hway.listed
  -- the paths of the directory and of the link start at a directory that stays
  have hstart : ¬ placeOf path <+: t.startOf naming.directory :=
    ht.not_prefix_of_empty hempty (isDirectory_startOf hway.directory hway.readable) hclear.start
  have hsame := DeviceNaming.startOf_linkPath t (ne_nil_of_locateBytes hway.directory) volume
  -- neither the directory of links, nor the link, nor the node is erased
  have hl : l ≠ placeOf path := fun heq =>
    houtside l hway.directory (heq ▸ List.prefix_rfl)
  have hlink : l ++ [Text.bytesOf (naming.linkOf volume)] ≠ placeOf path := fun heq =>
    houtside l hway.directory ⟨_, heq⟩
  have hk : k ≠ placeOf path := by
    rintro rfl
    rw [hget] at hnode
    cases hnode
  refine DeviceNaming.device_eq_ok_iff.2 ⟨by simpa using hway.named, ?listed,
    DeviceNaming.deviceAt_eq_ok_iff.2 ⟨?entry, k, ?place, ?node, rfl⟩⟩
  case listed =>
    refine ⟨_, readDirectory_eq_ok_iff.2 ⟨l, ?_, ?_, rfl⟩, _,
      mem_names_erase (mem_names_iff.2 hway.listed) hlink, Text.ofBytes_bytesOf _⟩
    · exact locateBytes_erase_of_straight hne hget hempty hclear.directory hstart hway.directory hl
    · rw [isDirectory_erase hne hl]
      exact hway.readable
  case entry =>
    refine ⟨e, lstatBytes_eq_ok_iff.2 ⟨l ++ [Text.bytesOf (naming.linkOf volume)], ?_, ?_⟩⟩
    · exact locateBytes_erase_of_straight hne hget hempty hclear.link (hsame ▸ hstart)
        hway.entry hlink
    · rw [get?_erase t hne, if_neg hlink, hentry]
  case place =>
    exact realPlace_erase_of_straight hne hget hempty hclear.link (hsame ▸ hstart) hway.place hk
  case node => exact nodeAt_erase ht' hne hnode hk hway.reachable

/-- **A device that is looked up straight on is found still after a directory outside was
    removed.** -/
theorem device_erase {naming : DeviceNaming} {volume : String} {d : Device} (ht : t.Lawful)
    (hd : naming.device t volume = .ok d) (hclear : naming.ClearOf t path volume)
    (hnormal : NormalPath path) (hne : placeOf path ≠ []) (hdirect : t.Direct (placeOf path))
    (houtside : naming.Outside t path) (h : t.removeDirectory path = .ok t') :
    naming.device t' volume = .ok d := by
  have ht' := ht.removeDirectory h
  obtain ⟨m, name, mode, hslot, hget, hnames, rfl⟩ := removeDirectory_eq_ok_iff.1 h
  have hempty := names_eq_nil_iff.1 hnames
  rw [concat_of_slotOf hnormal hne hdirect hslot] at hget hempty ht' ⊢
  obtain ⟨l, k, hway, rfl⟩ := DeviceNaming.exists_way ht hd
  exact device_erase_of_way ht ht' hne hget hempty hclear houtside hway

end FileTree

end VolumeNode
