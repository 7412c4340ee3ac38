import VolumeNode.Proofs.FileTree.Walk
import VolumeNode.Proofs.Volume.Device

/-!
# Trees with new entries

`grow` puts new entries behind those of a tree. What was found before is found still, at the same
place: by walks, by questions about a path, and by the look-up of a device (`device_grow`). What was
*not* found may be found now.
-/

namespace VolumeNode

namespace FileTree

open Location

/-- The tree with new entries behind the old ones. -/
def grow (t : FileTree) (new : List (Location × Entry)) : FileTree :=
  { t with entries := t.entries ++ new }

section Grow

variable {t : FileTree} {new : List (Location × Entry)} {l : Location} {path : String}
  {given : List UInt8}

theorem grow_nil (t : FileTree) : t.grow [] = t := by
  unfold grow
  rw [List.append_nil]

theorem insert_grow (t : FileTree) (new : List (Location × Entry)) (l : Location) (e : Entry) :
    (t.grow new).insert l e = t.grow (new ++ [(l, e)]) := by
  unfold insert grow
  rw [List.append_assoc]

theorem get?_grow (t : FileTree) (new : List (Location × Entry)) (l : Location) :
    (t.grow new).get? l = (t.get? l).or (new.lookup l) := by
  by_cases hl : l = []
  · rw [hl]
    rfl
  · rw [get?_of_ne_nil _ hl, get?_of_ne_nil _ hl]
    exact List.lookup_append

theorem get?_grow_of_some {e : Entry} (h : t.get? l = some e) (new : List (Location × Entry)) :
    (t.grow new).get? l = some e := by
  rw [get?_grow, h, Option.some_or]

theorem isDirectory_grow (h : t.isDirectory l = true) (new : List (Location × Entry)) :
    (t.grow new).isDirectory l = true := by
  unfold isDirectory at h ⊢
  cases hget : t.get? l with
  | none =>
    rw [hget] at h
    cases h
  | some e =>
    rw [get?_grow_of_some hget]
    rwa [hget] at h

theorem ne_of_isDirectory_of_vacant {k : Location} (hd : t.isDirectory k = true)
    (hfree : t.get? l = none) : k ≠ l := by
  rintro rfl
  unfold isDirectory at hd
  rw [hfree] at hd
  cases hd

/-- A stretch that went where entries stand, and did not end at a free place. -/
def Reach.Sure : Reach → Prop
  | .landed (.entry _) | .detour .. => True
  | .landed (.vacant _) | .refused _ => False

theorem advance_grow (followLast : Bool) {todo : List Name} (new : List (Location × Entry))
    (h : (t.advance followLast l todo).Sure) :
    (t.grow new).advance followLast l todo = t.advance followLast l todo := by
  induction todo generalizing l with
  | nil => rfl
  | cons name rest ih =>
    rw [advance] at h ⊢
    rw [advance]
    by_cases hd : t.isDirectory l = true
    · simp only [hd, isDirectory_grow hd new, Bool.not_true, Bool.false_eq_true, if_false] at h ⊢
      by_cases hhere : name = here
      · rw [if_pos hhere] at h
        rw [if_pos hhere, if_pos hhere]
        exact ih h
      by_cases habove : name = above
      · rw [if_neg hhere, if_pos habove] at h
        rw [if_neg hhere, if_pos habove, if_neg hhere, if_pos habove]
        exact ih h
      by_cases hlong : name.length > longestName
      · rw [if_neg hhere, if_neg habove, if_pos hlong] at h
        exact h.elim
      rw [if_neg hhere, if_neg habove, if_neg hlong] at h
      rw [if_neg hhere, if_neg habove, if_neg hlong, if_neg hhere, if_neg habove, if_neg hlong]
      cases hget : t.get? (l ++ [name]) with
      | none =>
        -- a free place may be taken in the larger tree
        rw [hget] at h
        revert h
        cases rest.isEmpty <;> exact False.elim
      | some e =>
        rw [get?_grow_of_some hget]
        rw [hget] at h
        cases e with
        | link target => rfl
        | _ => exact ih h
    · simp only [hd, Bool.not_false, if_true] at h
      exact h.elim

theorem entryUnder_grow {name : Name} {e : Entry} (new : List (Location × Entry))
    (h : t.entryUnder l name = .ok e) : (t.grow new).entryUnder l name = .ok e := by
  unfold entryUnder at h ⊢
  by_cases hlimit : (Location.path (l ++ [name])).length ≥ pathLimit
  · rw [if_pos hlimit] at h
    cases h
  by_cases hd : t.isDirectory l = true
  · simp only [hd, isDirectory_grow hd new, hlimit, if_false, Bool.not_true, Bool.false_eq_true]
      at h ⊢
    by_cases hlong : name.length > longestName
    · rw [if_pos hlong] at h
      cases h
    rw [if_neg hlong] at h ⊢
    cases hget : t.get? (l ++ [name]) with
    | none =>
      rw [hget] at h
      cases h
    | some e' =>
      rw [get?_grow_of_some hget]
      rwa [hget] at h
  · simp only [hd, hlimit, if_false, Bool.not_false, if_true] at h
    cases h

theorem spellOut_grow {todo : List Name} (new : List (Location × Entry))
    (h : (t.spellOut l todo).Sure) : (t.grow new).spellOut l todo = t.spellOut l todo := by
  induction todo generalizing l with
  | nil => rfl
  | cons name rest ih =>
    by_cases hhere : name = here
    · rw [spellOut, if_pos hhere] at h ⊢
      rw [spellOut, if_pos hhere]
      exact ih h
    by_cases habove : name = above
    · rw [spellOut, if_neg hhere, if_pos habove] at h ⊢
      rw [spellOut, if_neg hhere, if_pos habove]
      exact ih h
    cases hentry : t.entryUnder l name with
    | error e =>
      rw [spellOut, if_neg hhere, if_neg habove, hentry] at h
      exact h.elim
    | ok e =>
      have hlarger : (t.grow new).entryUnder l name = .ok e := entryUnder_grow new hentry
      by_cases hlink : ∃ target, e = .link target
      · obtain ⟨target, rfl⟩ := hlink
        rw [spellOut, spellOut, if_neg hhere, if_neg habove, if_neg hhere, if_neg habove, hentry,
          hlarger]
      · have hlink : ∀ target, e ≠ .link target := fun target heq => hlink ⟨target, heq⟩
        rw [spellOut_cons hhere habove hentry hlink] at h ⊢
        rw [spellOut_cons hhere habove hlarger hlink]
        cases hstop : stopBehind l name rest e with
        | some cause => rfl
        | none =>
          rw [hstop] at h
          exact ih h

/-- A walk that finds an entry finds the same one by any way of going that agrees where entries
    stand. -/
theorem follow_of_sure {stretch stretch' : Location → List Name → Reach}
    (hsure : ∀ l todo, (stretch l todo).Sure → stretch' l todo = stretch l todo) {budget : Nat}
    {l l' : Location} {todo : List Name} (h : follow stretch budget l todo = .ok (.entry l')) :
    follow stretch' budget l todo = .ok (.entry l') := by
  induction budget generalizing l todo with
  | zero =>
    unfold follow at h ⊢
    cases hreach : stretch l todo with
    | landed x =>
      rw [hreach] at h
      cases h
      rw [hsure l todo (by rw [hreach]; trivial), hreach]
    | refused e =>
      rw [hreach] at h
      cases h
    | detour k target rest =>
      rw [hreach] at h
      cases h
  | succ budget ih =>
    unfold follow at h ⊢
    cases hreach : stretch l todo with
    | landed x =>
      rw [hreach] at h
      cases h
      rw [hsure l todo (by rw [hreach]; trivial), hreach]
    | refused e =>
      rw [hreach] at h
      cases h
    | detour k target rest =>
      rw [hreach] at h
      rw [hsure l todo (by rw [hreach]; trivial), hreach]
      exact ih h

theorem land_grow {followLast : Bool} {l' : Location} {todo : List Name}
    (new : List (Location × Entry)) (h : t.land followLast l todo = .ok (.entry l')) :
    (t.grow new).land followLast l todo = .ok (.entry l') :=
  follow_of_sure (fun _ _ => advance_grow followLast new) h

theorem locateBytes_grow {followLast : Bool} (new : List (Location × Entry))
    (h : t.locateBytes followLast given = .ok l) :
    (t.grow new).locateBytes followLast given = .ok l := by
  obtain ⟨bytes, hbytes, hland⟩ := locateBytes_eq_ok_iff.1 h
  exact locateBytes_eq_ok_iff.2 ⟨bytes, hbytes, land_grow new hland⟩

theorem stat_grow {e : Entry} (new : List (Location × Entry)) (h : t.stat path = .ok e) :
    (t.grow new).stat path = .ok e := by
  obtain ⟨l, hl, hget⟩ := stat_eq_ok_iff.1 h
  exact stat_eq_ok_iff.2 ⟨l, locateBytes_grow new hl, get?_grow_of_some hget new⟩

theorem lstatBytes_grow {e : Entry} (new : List (Location × Entry))
    (h : t.lstatBytes given = .ok e) : (t.grow new).lstatBytes given = .ok e := by
  obtain ⟨l, hl, hget⟩ := lstatBytes_eq_ok_iff.1 h
  exact lstatBytes_eq_ok_iff.2 ⟨l, locateBytes_grow new hl, get?_grow_of_some hget new⟩

theorem realPlace_grow (new : List (Location × Entry)) (h : t.realPlace given = .ok l) :
    (t.grow new).realPlace given = .ok l := by
  obtain ⟨bytes, hbytes, hfollow⟩ := realPlace_eq_ok_iff.1 h
  exact realPlace_eq_ok_iff.2
    ⟨bytes, hbytes, follow_of_sure (fun _ _ => spellOut_grow new) hfollow⟩

theorem statBytes_grow {bytes : List UInt8} {e : Entry} (new : List (Location × Entry))
    (h : t.statBytes bytes = .ok e) : (t.grow new).statBytes bytes = .ok e := by
  obtain ⟨hshort, l, hland, hget⟩ := statBytes_eq_ok_iff.1 h
  exact statBytes_eq_ok_iff.2 ⟨hshort, l, land_grow new hland, get?_grow_of_some hget new⟩

theorem names_grow (t : FileTree) (new : List (Location × Entry)) (l : Location) :
    (t.grow new).names l = t.names l ++ (FileTree.mk new []).names l :=
  List.filterMap_append

/-- A directory may show new names behind its old ones. -/
theorem readDirectory_grow {names : List Name} (new : List (Location × Entry))
    (h : t.readDirectory given = .ok names) :
    ∃ more, (t.grow new).readDirectory given = .ok (names ++ more) := by
  obtain ⟨l, hl, hd, rfl⟩ := readDirectory_eq_ok_iff.1 h
  refine ⟨(FileTree.mk new []).names l, readDirectory_eq_ok_iff.2 ?_⟩
  exact ⟨l, locateBytes_grow new hl, isDirectory_grow hd new, (names_grow t new l).symm⟩

theorem slotOf_grow {name : Name} (new : List (Location × Entry))
    (h : t.slotOf path = .ok (.named l name)) : (t.grow new).slotOf path = .ok (.named l name) := by
  obtain ⟨bytes, hbytes, hlast, hland, hd, hname⟩ := slotOf_eq_named_iff.1 h
  exact slotOf_eq_named_iff.2
    ⟨bytes, hbytes, hlast, land_grow new hland, isDirectory_grow hd new, hname⟩

/-- The device of a volume stays the same. -/
theorem device_grow {naming : DeviceNaming} {volume : String} {d : Device}
    (new : List (Location × Entry)) (h : naming.device t volume = .ok d) :
    naming.device (t.grow new) volume = .ok d := by
  obtain ⟨hv, ⟨names, hnames, n, hn, hlink⟩, hat⟩ := DeviceNaming.device_eq_ok_iff.1 h
  obtain ⟨⟨e, hlstat⟩, place, hplace, ⟨e', hstat, hdevice⟩, hd⟩ :=
    DeviceNaming.deviceAt_eq_ok_iff.1 hat
  obtain ⟨more, hmore⟩ := readDirectory_grow new hnames
  refine DeviceNaming.device_eq_ok_iff.2
    ⟨hv, ⟨_, hmore, n, List.mem_append_left _ hn, hlink⟩, ?_⟩
  exact DeviceNaming.deviceAt_eq_ok_iff.2 ⟨⟨e, lstatBytes_grow new hlstat⟩, place,
    realPlace_grow new hplace, ⟨e', statBytes_grow new hstat, hdevice⟩, hd⟩

end Grow

end FileTree

end VolumeNode
