import VolumeNode.FileTree.Change

/-!
# Where walks arrive

* `bind_eq_ok_iff` takes a computation that may fail apart into its steps.
* `locateBytes_eq_ok_iff`, `stat_eq_ok_iff`, `lstatBytes_eq_ok_iff`, `readDirectory_eq_ok_iff` and
  `realPlace_eq_ok_iff` say which walk stands behind each question about a path.
* The path of a location starts at the root (`head?_text`). Behind an entry that is no link, the
  walk that spells a path out goes on, or stops for a cause that the path alone decides
  (`spellOut_cons`).
* A walk along some names and more goes on where the walk along the first ones ended
  (`follow_append`). So at a place where nothing stands there is nothing to see
  (`lstat_of_vacant`), and that is where a directory can be made and removed
  (`makeDirectory_eq_ok_iff`, `removeDirectory_eq_ok_iff`).
-/

namespace VolumeNode

/-- A computation succeeds if its first step does, and the rest does with what that gives. -/
theorem bind_eq_ok_iff {ε α β : Type} {x : Except ε α} {f : α → Except ε β} {b : β} :
    (x >>= f) = .ok b ↔ ∃ a, x = .ok a ∧ f a = .ok b := by
  cases x with
  | error e =>
    constructor
    · intro h
      cases h
    · intro ⟨a, ha, _⟩
      cases ha
  | ok a =>
    constructor
    · intro h
      exact ⟨a, rfl, h⟩
    · intro ⟨a', ha, h⟩
      cases ha
      exact h

@[simp] theorem mapError_ok {ε ε' α : Type} (f : ε → ε') (a : α) :
    (Except.ok a : Except ε α).mapError f = .ok a := rfl

@[simp] theorem mapError_error {ε ε' α : Type} (f : ε → ε') (e : ε) :
    (Except.error e : Except ε α).mapError f = .error (f e) := rfl

theorem Location.isAbsolute_path (l : Location) : isAbsolute l.path = true := by
  unfold isAbsolute Location.path
  cases l <;> rfl

/-- The path of a location starts at the root. -/
theorem Location.head?_text (l : Location) : l.text.toList.head? = some '/' := by
  have hpath : ∃ rest, l.path = Text.encode ['/'] ++ rest := by
    cases l with
    | nil => exact ⟨[], rfl⟩
    | cons name names => exact ⟨name ++ names.flatMap (slash :: ·), rfl⟩
  obtain ⟨rest, hrest⟩ := hpath
  unfold Location.text Text.ofBytes
  rw [hrest, Text.decodeLossy_encode_append, String.toList_ofList]
  rfl

namespace FileTree

open Location

variable {t : FileTree} {path : String}

/-- The bytes of a path of any length stay what they are. -/
theorem anyPath_eq_ok_iff {given bytes : List UInt8} :
    anyPath given = .ok bytes ↔ bytes = given ∧ 0 ∉ bytes ∧ bytes ≠ [] := by
  unfold anyPath
  by_cases hnul : 0 ∈ given
  · rw [if_pos hnul]
    refine iff_of_false nofun ?_
    rintro ⟨rfl, hno, _⟩
    exact hno hnul
  by_cases hempty : given = []
  · rw [if_neg hnul, if_pos hempty]
    refine iff_of_false nofun ?_
    rintro ⟨rfl, _, hne⟩
    exact hne hempty
  rw [if_neg hnul, if_neg hempty]
  constructor
  · intro h
    cases h
    exact ⟨rfl, hnul, hempty⟩
  · rintro ⟨rfl, _⟩
    rfl

/-- The bytes of a path stay what they are. -/
theorem shortPath_eq_ok_iff {given bytes : List UInt8} :
    shortPath given = .ok bytes ↔
      bytes = given ∧ 0 ∉ bytes ∧ bytes ≠ [] ∧ bytes.length < pathLimit := by
  unfold shortPath
  simp only [bind_eq_ok_iff, anyPath_eq_ok_iff]
  constructor
  · rintro ⟨bytes', ⟨rfl, hnul, hne⟩, h⟩
    split at h
    · cases h
    · cases h
      exact ⟨rfl, hnul, hne, Nat.not_le.1 ‹_›⟩
  · rintro ⟨rfl, hnul, hne, hshort⟩
    refine ⟨_, ⟨rfl, hnul, hne⟩, ?_⟩
    rw [if_neg (Nat.not_le.2 hshort)]
    rfl

/-- The bytes of a path are those of its text. -/
theorem pathBytes_eq_ok_iff {bytes : List UInt8} :
    pathBytes path = .ok bytes ↔
      bytes = Text.bytesOf path ∧ 0 ∉ bytes ∧ bytes ≠ [] ∧ bytes.length < pathLimit :=
  shortPath_eq_ok_iff

/-- Bytes that start with a slash start at the root. -/
theorem startOf_of_head? (t : FileTree) {bytes : List UInt8} (h : bytes.head? = some slash) :
    t.startOf bytes = [] := by
  unfold startOf isAbsolute
  rw [if_pos (decide_eq_true h)]

/-- A path that starts with a slash starts at the root. -/
theorem startOf_bytesOf (t : FileTree) (h : path.toList.head? = some '/') :
    t.startOf (Text.bytesOf path) = [] := by
  obtain ⟨rest, hrest⟩ := List.head?_eq_some_iff.1 h
  unfold startOf isAbsolute Text.bytesOf
  rw [hrest, Text.encode_cons]
  rfl

/-- The path of a location starts at the root. -/
theorem startOf_path (t : FileTree) (l : Location) : t.startOf l.path = [] := by
  unfold startOf
  rw [if_pos (isAbsolute_path l)]

theorem Landing.toEntry_eq_ok_iff {x : Landing} {l : Location} :
    x.toEntry = .ok l ↔ x = .entry l := by
  cases x <;> simp [Landing.toEntry]

theorem walk_eq_ok_iff {followLast : Bool} {l l' : Location} {todo : List Name} :
    t.walk followLast l todo = .ok l' ↔ t.land followLast l todo = .ok (.entry l') := by
  unfold walk
  rw [bind_eq_ok_iff]
  constructor
  · intro ⟨x, hx, hl⟩
    rw [hx, Landing.toEntry_eq_ok_iff.1 hl]
  · intro h
    exact ⟨_, h, rfl⟩

theorem locateBytes_eq_ok_iff {followLast : Bool} {given : List UInt8} {l : Location} :
    t.locateBytes followLast given = .ok l ↔
      ∃ bytes, shortPath given = .ok bytes ∧
        t.land followLast (t.startOf bytes) (steps bytes) = .ok (.entry l) := by
  unfold locateBytes
  simp only [bind_eq_ok_iff, walk_eq_ok_iff]

theorem ne_nil_of_locateBytes {followLast : Bool} {given : List UInt8} {l : Location}
    (h : t.locateBytes followLast given = .ok l) : given ≠ [] := by
  obtain ⟨_, hbytes, _⟩ := locateBytes_eq_ok_iff.1 h
  obtain ⟨rfl, _, hne, _⟩ := shortPath_eq_ok_iff.1 hbytes
  exact hne

/-- A path to a directory starts at one. -/
theorem isDirectory_startOf {followLast : Bool} {given : List UInt8} {l : Location}
    (h : t.locateBytes followLast given = .ok l) (hl : t.isDirectory l = true) :
    t.isDirectory (t.startOf given) = true := by
  obtain ⟨bytes, hbytes, hland⟩ := locateBytes_eq_ok_iff.1 h
  obtain rfl := (shortPath_eq_ok_iff.1 hbytes).1
  unfold land linkBudget follow at hland
  cases hsteps : steps bytes with
  | nil =>
    rw [hsteps] at hland
    cases hland
    exact hl
  | cons name rest =>
    by_cases hd : t.isDirectory (t.startOf bytes) = true
    · exact hd
    · rw [hsteps, advance, if_pos (by simpa using hd)] at hland
      cases hland

theorem locate_eq_ok_iff {followLast : Bool} {l : Location} :
    t.locate followLast path = .ok l ↔
      ∃ bytes, pathBytes path = .ok bytes ∧
        t.land followLast (t.startOf bytes) (steps bytes) = .ok (.entry l) :=
  locateBytes_eq_ok_iff

/-- A text is looked up once it is a path. -/
theorem locate_def (t : FileTree) (followLast : Bool) (path : String) :
    t.locate followLast path =
      pathBytes path >>= fun bytes => t.walk followLast (t.startOf bytes) (steps bytes) := rfl

theorem lstat_def (t : FileTree) (path : String) :
    t.lstat path = t.locate false path >>= t.entryAt := rfl

theorem entryAt_eq_ok_iff {l : Location} {e : Entry} :
    t.entryAt l = .ok e ↔ t.get? l = some e := by
  unfold entryAt
  cases t.get? l <;> simp

theorem stat_eq_ok_iff {e : Entry} :
    t.stat path = .ok e ↔ ∃ l, t.locate true path = .ok l ∧ t.get? l = some e := by
  unfold stat
  simp only [bind_eq_ok_iff, entryAt_eq_ok_iff]

theorem lstatBytes_eq_ok_iff {bytes : List UInt8} {e : Entry} :
    t.lstatBytes bytes = .ok e ↔ ∃ l, t.locateBytes false bytes = .ok l ∧ t.get? l = some e := by
  unfold lstatBytes
  simp only [bind_eq_ok_iff, entryAt_eq_ok_iff]

theorem lstat_eq_ok_iff {e : Entry} :
    t.lstat path = .ok e ↔ ∃ l, t.locate false path = .ok l ∧ t.get? l = some e :=
  lstatBytes_eq_ok_iff

theorem readDirectory_eq_ok_iff {bytes : List UInt8} {names : List Name} :
    t.readDirectory bytes = .ok names ↔
      ∃ l, t.locateBytes true bytes = .ok l ∧ t.isDirectory l = true ∧ names = t.names l := by
  unfold readDirectory
  rw [bind_eq_ok_iff]
  refine exists_congr fun l => and_congr_right fun _ => ?_
  by_cases h : t.isDirectory l = true
  · simp only [h, if_true, true_and]
    constructor
    · intro hnames
      cases hnames
      rfl
    · rintro rfl
      rfl
  · simp only [h, Bool.false_eq_true, if_false, false_and, iff_false]
    intro hnames
    cases hnames

theorem statBytes_eq_ok_iff {bytes : List UInt8} {e : Entry} :
    t.statBytes bytes = .ok e ↔ bytes.length < pathLimit ∧
      ∃ l, t.land true (t.startOf bytes) (steps bytes) = .ok (.entry l) ∧ t.get? l = some e := by
  unfold statBytes
  by_cases hlimit : bytes.length ≥ pathLimit
  · rw [if_pos hlimit]
    exact iff_of_false nofun fun h => Nat.not_lt.2 hlimit h.1
  · rw [if_neg hlimit]
    simp only [bind_eq_ok_iff, walk_eq_ok_iff, entryAt_eq_ok_iff, Nat.not_le.1 hlimit, true_and]

theorem realPlace_eq_ok_iff {given : List UInt8} {l : Location} :
    t.realPlace given = .ok l ↔
      ∃ bytes, anyPath given = .ok bytes ∧
        follow t.spellOut linkBudget (t.startOf bytes) (steps bytes) = .ok (.entry l) := by
  unfold realPlace
  simp only [bind_eq_ok_iff, Landing.toEntry_eq_ok_iff, exists_eq_right]

theorem canonical_eq_ok_iff {real : String} :
    t.canonical path = .ok real ↔ ∃ l, t.realPlace (Text.bytesOf path) = .ok l ∧ real = l.text := by
  unfold canonical
  rw [bind_eq_ok_iff]
  refine exists_congr fun l => and_congr_right fun _ => ?_
  exact ⟨fun h => (Except.ok.inj h).symm, fun h => h ▸ rfl⟩

/-! ## Steps that spell out -/

theorem get?_of_entryUnder {l : Location} {name : Name} {e : Entry}
    (h : t.entryUnder l name = .ok e) : t.get? (l ++ [name]) = some e := by
  unfold entryUnder at h
  split at h
  · cases h
  split at h
  · cases h
  split at h
  · cases h
  cases hget : t.get? (l ++ [name]) with
  | none =>
    rw [hget] at h
    cases h
  | some e' =>
    rw [hget] at h
    rw [Except.ok.inj h]

/-- Why there is no way on behind an entry that is no link. The tree has no say in this. -/
def stopBehind (l : Location) (name : Name) (rest : List Name) (e : Entry) : Option SystemError :=
  if ! asksForDirectory rest then none
  else if (Location.path (l ++ [name])).length + 1 ≥ pathLimit then some .nameTooLong
  else if ! e.isDirectory then some .notDirectory
  else none

theorem spellOut_cons {l : Location} {name : Name} {rest : List Name} {e : Entry}
    (hhere : name ≠ here) (habove : name ≠ above) (hentry : t.entryUnder l name = .ok e)
    (hlink : ∀ target, e ≠ .link target) :
    t.spellOut l (name :: rest) =
      match stopBehind l name rest e with
      | some cause => .refused cause
      | none => t.spellOut (l ++ [name]) rest := by
  rw [spellOut, if_neg hhere, if_neg habove, hentry]
  unfold stopBehind
  cases e with
  | link target => exact absurd rfl (hlink target)
  | _ =>
    dsimp only
    split
    · rfl
    split
    · rfl
    split <;> rfl

/-! ## Walks in two stretches -/

/-- What is left of a stretch that has more to go behind its end. -/
def Reach.thenTo (rest : List Name) (onward : Location → Reach) : Reach → Reach
  | .landed (.entry l) => onward l
  | .landed (.vacant _) => .refused .noEntry
  | .refused e => .refused e
  | .detour l target todo => .detour l target (todo ++ rest)

/-- With more to go, a link is followed and a free place is an error. -/
theorem advance_append {rest : List Name} (hrest : rest ≠ []) (t : FileTree) (followLast : Bool)
    (l : Location) (names : List Name) :
    t.advance followLast l (names ++ rest) =
      (t.advance true l names).thenTo rest (t.advance followLast · rest) := by
  have hmore : ∀ ns : List Name, (ns ++ rest).isEmpty = false := by
    intro ns
    cases ns with
    | nil => simpa using hrest
    | cons n ns => rfl
  induction names generalizing l with
  | nil => rfl
  | cons name names ih =>
    rw [List.cons_append, advance, advance]
    by_cases hd : t.isDirectory l = true
    · simp only [hd, Bool.not_true, Bool.false_eq_true, if_false]
      by_cases hhere : name = here
      · simp only [hhere, if_true]
        exact ih l
      by_cases habove : name = above
      · rw [if_neg hhere, if_pos habove, if_neg hhere, if_pos habove]
        exact ih l.dropLast
      by_cases hlong : name.length > longestName
      · simp only [hhere, habove, hlong, if_false, if_true]
        rfl
      simp only [hhere, habove, hlong, if_false]
      cases hget : t.get? (l ++ [name]) with
      | none =>
        simp only [hmore, Bool.false_eq_true, if_false]
        cases names.isEmpty <;> rfl
      | some e =>
        cases e with
        | link target =>
          simp only [hmore, Bool.false_and, Bool.and_false, Bool.false_eq_true, if_false]
          rfl
        | _ => exact ih (l ++ [name])
    · simp only [hd, Bool.not_false, if_true]
      rfl

theorem follow_congr {stretch : Location → List Name → Reach} {l l' : Location}
    {todo todo' : List Name} (h : stretch l todo = stretch l' todo') (budget : Nat) :
    follow stretch budget l todo = follow stretch budget l' todo' := by
  cases budget with
  | zero =>
    unfold follow
    rw [h]
  | succ budget =>
    unfold follow
    rw [h]

/-- A walk goes on where the walk along its first names ended, with what is left of the budget. -/
theorem follow_append {rest : List Name} (hrest : rest ≠ []) {t : FileTree} (followLast : Bool)
    {budget : Nat} {l l' : Location} {names : List Name}
    (h : follow (t.advance true) budget l names = .ok (.entry l')) :
    ∃ budget', follow (t.advance followLast) budget l (names ++ rest) =
      follow (t.advance followLast) budget' l' rest := by
  have happend := advance_append hrest t followLast
  induction budget generalizing l names with
  | zero =>
    unfold follow at h
    cases hreach : t.advance true l names with
    | landed x =>
      rw [hreach] at h
      cases h
      refine ⟨0, follow_congr ?_ 0⟩
      rw [happend, hreach]
      rfl
    | refused e =>
      rw [hreach] at h
      cases h
    | detour k target todo =>
      rw [hreach] at h
      cases h
  | succ budget ih =>
    unfold follow at h
    cases hreach : t.advance true l names with
    | landed x =>
      rw [hreach] at h
      cases h
      refine ⟨budget + 1, follow_congr ?_ (budget + 1)⟩
      rw [happend, hreach]
      rfl
    | refused e =>
      rw [hreach] at h
      cases h
    | detour k target todo =>
      rw [hreach] at h
      obtain ⟨budget', hbudget'⟩ := ih h
      refine ⟨budget', ?_⟩
      rw [← hbudget', List.append_assoc, follow, happend, hreach]
      rfl

/-! ## The place that a path names -/

/-- A path names a place in a directory exactly if the names before the last one lead to that
    directory, and the last one is a name of its own. -/
theorem slotOf_eq_named_iff {l : Location} {name : Name} :
    t.slotOf path = .ok (.named l name) ↔
      ∃ bytes, pathBytes path = .ok bytes ∧ (namesOf bytes).getLast? = some name ∧
        t.land true (t.startOf bytes) (namesOf bytes).dropLast = .ok (.entry l) ∧
        t.isDirectory l = true ∧ name ≠ here ∧ name ≠ above ∧ name.length ≤ longestName := by
  unfold slotOf
  rw [bind_eq_ok_iff]
  refine exists_congr fun bytes => and_congr_right fun _ => ?_
  dsimp only
  cases hlast : (namesOf bytes).getLast? with
  | none =>
    constructor
    · intro h
      cases h
    · intro ⟨h, _⟩
      cases h
  | some last =>
    simp only [bind_eq_ok_iff, walk_eq_ok_iff]
    constructor
    · intro ⟨k, hk, h⟩
      by_cases hd : t.isDirectory k = true
      · simp only [hd, Bool.not_true, Bool.false_eq_true, if_false] at h
        by_cases hhere : last = here
        · rw [if_pos hhere] at h
          cases h
        by_cases habove : last = above
        · rw [if_neg hhere, if_pos habove] at h
          cases h
        by_cases hlong : last.length > longestName
        · rw [if_neg hhere, if_neg habove, if_pos hlong] at h
          cases h
        rw [if_neg hhere, if_neg habove, if_neg hlong] at h
        cases h
        exact ⟨rfl, hk, hd, hhere, habove, Nat.not_lt.1 hlong⟩
      · simp only [hd, Bool.not_false, if_true] at h
        cases h
    · intro ⟨hname, hl, hd, hhere, habove, hlong⟩
      cases hname
      refine ⟨l, hl, ?_⟩
      simp only [hd, Bool.not_true, Bool.false_eq_true, if_false]
      rw [if_neg hhere, if_neg habove, if_neg (Nat.not_lt.2 hlong)]
      rfl

/-- What a path names, its steps lead to: its last name, and a `.` behind it if the path ends in a
    slash. -/
theorem exists_steps_of_getLast? {bytes : List UInt8} {name : Name}
    (hlast : (namesOf bytes).getLast? = some name) :
    ∃ trail, steps bytes = (namesOf bytes).dropLast ++ name :: trail ∧
      (trail = [] ∨ trail = [here]) := by
  obtain ⟨below, hnames⟩ := List.getLast?_eq_some_iff.1 hlast
  unfold steps
  rw [hnames, List.dropLast_concat, List.append_assoc]
  refine ⟨_, rfl, ?_⟩
  split
  · exact .inr rfl
  · exact .inl rfl

/-- A path that names a free place leads nowhere. -/
theorem locate_of_vacant {l : Location} {name : Name} (hslot : t.slotOf path = .ok (.named l name))
    (hfree : t.get? (l ++ [name]) = none) (followLast : Bool) :
    t.locate followLast path = .error .noEntry := by
  obtain ⟨bytes, hbytes, hlast, hland, hd, hhere, habove, hlong⟩ := slotOf_eq_named_iff.1 hslot
  obtain ⟨trail, hsteps, _⟩ := exists_steps_of_getLast? hlast
  obtain ⟨budget, hfollow⟩ := follow_append (List.cons_ne_nil name trail) followLast hland
  have hreach : t.advance followLast l (name :: trail) =
      if trail.isEmpty then .landed (.vacant (l ++ [name])) else .refused .noEntry := by
    rw [advance]
    simp only [hd, Bool.not_true, Bool.false_eq_true, if_false]
    rw [if_neg hhere, if_neg habove, if_neg (Nat.not_lt.2 hlong), hfree]
  rw [locate_def, hbytes]
  show t.walk followLast (t.startOf bytes) (steps bytes) = .error .noEntry
  unfold walk land
  rw [hsteps, hfollow]
  cases trail with
  | nil => cases budget <;> (unfold follow; rw [hreach]; rfl)
  | cons n trail => cases budget <;> (unfold follow; rw [hreach]; rfl)

theorem lstat_of_vacant {l : Location} {name : Name} (hslot : t.slotOf path = .ok (.named l name))
    (hfree : t.get? (l ++ [name]) = none) : t.lstat path = .error .noEntry := by
  rw [lstat_def, locate_of_vacant hslot hfree]
  rfl

theorem stat_of_vacant {l : Location} {name : Name} (hslot : t.slotOf path = .ok (.named l name))
    (hfree : t.get? (l ++ [name]) = none) : t.stat path = .error .noEntry := by
  unfold stat
  rw [locate_of_vacant hslot hfree]
  rfl

/-- A directory can be made exactly at a free place. -/
theorem makeDirectory_eq_ok_iff {mode : Nat} {t' : FileTree} :
    t.makeDirectory path mode = .ok t' ↔
      ∃ l name, t.slotOf path = .ok (.named l name) ∧ t.get? (l ++ [name]) = none ∧
        t' = t.insert (l ++ [name]) (.directory mode) := by
  unfold makeDirectory
  rw [bind_eq_ok_iff]
  constructor
  · intro ⟨slot, hslot, h⟩
    cases slot with
    | named l name =>
      dsimp only at h
      cases hget : t.get? (l ++ [name]) with
      | some e =>
        rw [hget] at h
        cases h
      | none =>
        rw [hget] at h
        cases h
        exact ⟨l, name, hslot, hget, rfl⟩
    | _ => cases h
  · rintro ⟨l, name, hslot, hfree, rfl⟩
    refine ⟨_, hslot, ?_⟩
    dsimp only
    rw [hfree]
    rfl

/-- A directory can be removed exactly if it is empty. -/
theorem removeDirectory_eq_ok_iff {t' : FileTree} :
    t.removeDirectory path = .ok t' ↔
      ∃ l name mode, t.slotOf path = .ok (.named l name) ∧
        t.get? (l ++ [name]) = some (.directory mode) ∧ t.names (l ++ [name]) = [] ∧
        t' = t.erase (l ++ [name]) := by
  unfold removeDirectory
  rw [bind_eq_ok_iff]
  constructor
  · intro ⟨slot, hslot, h⟩
    cases slot with
    | named l name =>
      dsimp only at h
      cases hget : t.get? (l ++ [name]) with
      | none =>
        rw [hget] at h
        cases h
      | some e =>
        rw [hget] at h
        cases e with
        | directory mode =>
          dsimp only at h
          by_cases hempty : t.names (l ++ [name]) = []
          · rw [if_pos hempty] at h
            cases h
            exact ⟨l, name, mode, hslot, hget, hempty, rfl⟩
          · rw [if_neg hempty] at h
            cases h
        | _ => cases h
    | _ => cases h
  · rintro ⟨l, name, mode, hslot, hget, hempty, rfl⟩
    refine ⟨_, hslot, ?_⟩
    dsimp only
    rw [hget]
    dsimp only
    rw [if_pos hempty]
    rfl

end FileTree

end VolumeNode
