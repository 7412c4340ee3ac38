import Mathlib.Data.List.Infix
import VolumeNode.Proofs.FileTree.Walk
import VolumeNode.Proofs.Text.Words

/-!
# The place that a plain path names

A path without `.`, `..` and links on its way leads straight down to one place, and only what stands
on this way matters to it.

* `placeOf` are the names of a path. `NormalPath` is a path that is spelled as its place is;
  `Direct` says that there are no links on the way to a place.
* `SameWay` are two trees with the same on the way to a place. A walk straight down depends on that
  alone (`land_congr`), and so do questions about such a path (`stat_congr`, `lstat_congr`) and the
  place that it names (`slotOf_congr`).
* `AlikeFor` are trees that are the same as far as some paths go, what is below them included. **At
  these paths a directory can be made or removed in both trees or in none, and they stay alike**
  (`AlikeFor.makeDirectory`, `AlikeFor.removeDirectory`).
-/

namespace VolumeNode

open Location

/-! ## 1. Normal paths -/

/-- Neither of two locations is the other one or on the way to it. -/
def Location.Apart (l l' : Location) : Prop :=
  ¬ l <+: l' ∧ ¬ l' <+: l

instance (l l' : Location) : Decidable (l.Apart l') :=
  inferInstanceAs (Decidable (_ ∧ _))

/-- The place that the names of a path lead to, if it starts at the root. -/
def placeOf (path : String) : Location :=
  namesOf (Text.bytesOf path)

/-- A path in normal form. -/
structure NormalPath (path : String) : Prop where
  /-- It starts with a slash, has one slash between names, and none at its end. -/
  spelled : Text.bytesOf path = (placeOf path).path
  noHere : here ∉ placeOf path
  noAbove : above ∉ placeOf path

instance (path : String) : Decidable (NormalPath path) :=
  decidable_of_iff (Text.bytesOf path = (placeOf path).path ∧ here ∉ placeOf path ∧
    above ∉ placeOf path) ⟨fun h => ⟨h.1, h.2.1, h.2.2⟩, fun h => ⟨h.spelled, h.noHere, h.noAbove⟩⟩

theorem Location.Apart.symm {l l' : Location} (h : l.Apart l') : l'.Apart l :=
  ⟨h.2, h.1⟩

theorem Location.Apart.ne_nil {l l' : Location} (h : l.Apart l') : l ≠ [] := by
  rintro rfl
  exact h.1 List.nil_prefix

theorem name_of_mem_namesOf {path : List UInt8} {name : Name} (h : name ∈ namesOf path) :
    name ≠ [] ∧ slash ∉ name := by
  obtain ⟨hpiece, hne⟩ := List.mem_filter.1 h
  refine ⟨by simpa using hne, fun hslash => ?_⟩
  simpa using Text.not_of_mem_splitOn hpiece slash hslash

namespace Location

/-- A slash parts the names before it from the names behind it. -/
theorem namesOf_append (front back : List UInt8) :
    namesOf (front ++ slash :: back) = namesOf front ++ namesOf back := by
  unfold namesOf
  rw [Text.splitOn_append (by decide), List.filter_append]

/-- A name is the only one in its path. -/
theorem namesOf_name {name : Name} (hne : name ≠ []) (hslash : slash ∉ name) :
    namesOf name = [name] := by
  have hwhole : ∀ b ∈ name, (b == slash) = false := by
    intro b hb
    rw [beq_eq_false_iff_ne]
    rintro rfl
    exact hslash hb
  unfold namesOf
  rw [Text.splitOn_of_forall hwhole, List.filter_cons_of_pos (by simpa using hne), List.filter_nil]

/-- The steps of a path that ends in a name. -/
theorem steps_append (front : List UInt8) {name : Name} (hne : name ≠ []) (hslash : slash ∉ name) :
    steps (front ++ slash :: name) = namesOf front ++ [name] := by
  have hlast : (front ++ slash :: name).getLast? ≠ some slash := by
    rw [List.append_cons, List.getLast?_append_of_ne_nil _ hne]
    exact fun heq => hslash (List.mem_of_getLast? heq)
  unfold steps
  rw [if_neg hlast, List.append_nil, namesOf_append, namesOf_name hne hslash]

/-- The path of a location leads to it by its names. -/
theorem steps_path {l : Location} (hne : l ≠ []) (hnames : ∀ n ∈ l, n ≠ [] ∧ slash ∉ n) :
    steps l.path = l := by
  have hall : ∀ names : List Name, (∀ n ∈ names, n ≠ [] ∧ slash ∉ n) →
      namesOf (names.flatMap (slash :: ·)) = names := by
    intro names hnames
    induction names using List.reverseRecOn with
    | nil => rfl
    | append_singleton names name ih =>
      obtain ⟨hname, hslash⟩ := hnames name (by simp)
      rw [List.flatMap_append, List.flatMap_singleton, namesOf_append, namesOf_name hname hslash,
        ih fun n hn => hnames n (List.mem_append_left _ hn)]
  obtain ⟨front, last, rfl⟩ := List.eq_nil_or_concat l |>.resolve_left hne
  rw [List.concat_eq_append] at hnames ⊢
  obtain ⟨hlast, hslash⟩ := hnames last (by simp)
  unfold Location.path
  rw [if_neg (by simp), List.flatMap_append, List.flatMap_singleton, steps_append _ hlast hslash,
    hall front fun n hn => hnames n (List.mem_append_left _ hn)]

end Location

namespace NormalPath

variable {path : String}

theorem isAbsolute (h : NormalPath path) : isAbsolute (Text.bytesOf path) = true := by
  rw [h.spelled]
  exact isAbsolute_path (placeOf path)

/-- The steps along a normal path are its names. -/
theorem steps_eq (h : NormalPath path) (hne : placeOf path ≠ []) :
    steps (Text.bytesOf path) = placeOf path := by
  rw [h.spelled]
  exact steps_path hne fun _ hname => name_of_mem_namesOf hname

theorem text_placeOf (h : NormalPath path) : (placeOf path).text = path := by
  unfold Location.text
  rw [← h.spelled, Text.ofBytes_bytesOf]

end NormalPath

namespace FileTree

/-! ## 2. The way to a place -/

variable {t t' : FileTree} {l : Location} {path : String}

/-- No links are on the way to a place, nor at that place. -/
def Direct (t : FileTree) (l : Location) : Prop :=
  ∀ k, k <+: l → ∀ target, t.get? k ≠ some (.link target)

/-- Whether a location holds a link. -/
def isLink (t : FileTree) (l : Location) : Bool :=
  match t.get? l with
  | some (.link _) => true
  | _ => false

theorem direct_iff : t.Direct l ↔ ∀ k ∈ l.inits, t.isLink k = false := by
  unfold Direct isLink
  refine forall_congr' fun k => ?_
  rw [List.mem_inits]
  refine imp_congr_right fun _ => ?_
  split
  · next target hget => simp [hget]
  · next hnone =>
    simp only [iff_true]
    exact fun target => hnone target

instance (t : FileTree) (l : Location) : Decidable (t.Direct l) :=
  decidable_of_iff _ direct_iff.symm

/-- Two trees hold the same on the way to a place. -/
def SameWay (t t' : FileTree) (l : Location) : Prop :=
  ∀ k, k <+: l → t.get? k = t'.get? k

theorem SameWay.refl (t : FileTree) (l : Location) : t.SameWay t l := fun _ _ => rfl

theorem SameWay.shorter (h : t.SameWay t' l) {k : Location} (hk : k <+: l) : t.SameWay t' k :=
  fun i hi => h i (hi.trans hk)

theorem Direct.shorter (h : t.Direct l) {k : Location} (hk : k <+: l) : t.Direct k :=
  fun i hi => h i (hi.trans hk)

theorem SameWay.isDirectory (h : t.SameWay t' l) {k : Location} (hk : k <+: l) :
    t.isDirectory k = t'.isDirectory k := by
  unfold FileTree.isDirectory
  rw [h k hk]

theorem SameWay.direct (h : t.SameWay t' l) (hdirect : t.Direct l) : t'.Direct l := by
  intro k hk target
  rw [← h k hk]
  exact hdirect k hk target

/-- Where a walk straight down ends: at its place, or at an error. -/
def Reach.Down (l : Location) : Reach → Prop
  | .landed (.entry k) | .landed (.vacant k) => k = l
  | .refused _ => True
  | .detour .. => False

/-- A walk straight down depends on what is on its way only. -/
theorem advance_congr {names : List Name} (hsame : t.SameWay t' (l ++ names))
    (hdirect : t.Direct (l ++ names)) (hhere : here ∉ names) (habove : above ∉ names)
    (followLast : Bool) :
    t.advance followLast l names = t'.advance followLast l names ∧
      (t.advance followLast l names).Down (l ++ names) := by
  induction names generalizing l with
  | nil => exact ⟨rfl, (List.append_nil l).symm⟩
  | cons name rest ih =>
    rw [List.mem_cons, not_or] at hhere habove
    have hl : l <+: l ++ name :: rest := List.prefix_append _ _
    have hnext : l ++ [name] <+: l ++ name :: rest := ⟨rest, by simp⟩
    have hsplit : l ++ name :: rest = (l ++ [name]) ++ rest := by simp
    rw [advance, advance, ← hsame.isDirectory hl, ← hsame _ hnext]
    by_cases hd : t.isDirectory l = true
    · simp only [hd, Bool.not_true, Bool.false_eq_true, if_false]
      rw [if_neg (Ne.symm hhere.1), if_neg (Ne.symm habove.1), if_neg (Ne.symm hhere.1),
        if_neg (Ne.symm habove.1)]
      by_cases hlong : name.length > longestName
      · rw [if_pos hlong, if_pos hlong]
        exact ⟨rfl, trivial⟩
      rw [if_neg hlong, if_neg hlong]
      cases hget : t.get? (l ++ [name]) with
      | none =>
        refine ⟨rfl, ?_⟩
        dsimp only
        cases rest with
        | nil => exact rfl
        | cons n ns => trivial
      | some e =>
        cases e with
        | link target => exact absurd hget (hdirect _ hnext target)
        | _ =>
          rw [hsplit] at hsame hdirect ⊢
          exact ih hsame hdirect hhere.2 habove.2
    · simp only [hd, Bool.not_false, if_true]
      exact ⟨trivial, trivial⟩

/-- A stretch that meets no link is the whole walk. -/
theorem follow_of_down {stretch : Location → List Name → Reach} {k : Location}
    {todo : List Name} (h : (stretch l todo).Down k) (budget : Nat) :
    follow stretch budget l todo =
      match stretch l todo with
      | .landed x => .ok x
      | .refused e => .error e
      | .detour .. => .error .tooManyLinks := by
  cases hreach : stretch l todo with
  | detour l target rest =>
    rw [hreach] at h
    exact h.elim
  | _ =>
    cases budget with
    | zero => rw [follow, hreach]
    | succ budget => rw [follow, hreach]

/-- From the root, a walk straight down finds the same in both trees. -/
theorem land_congr {names : List Name} (hsame : t.SameWay t' names) (hdirect : t.Direct names)
    (hhere : here ∉ names) (habove : above ∉ names) (followLast : Bool) :
    t.land followLast [] names = t'.land followLast [] names ∧
      ∀ k, t.land followLast [] names = .ok (.entry k) → k = names := by
  obtain ⟨hreach, hdown⟩ :
      t.advance followLast [] names = t'.advance followLast [] names ∧
        (t.advance followLast [] names).Down names :=
    advance_congr hsame hdirect hhere habove followLast
  unfold land
  rw [follow_of_down hdown, follow_of_down (hreach ▸ hdown), ← hreach]
  refine ⟨rfl, fun k hk => ?_⟩
  cases h : t.advance followLast [] names with
  | landed x =>
    rw [h] at hk hdown
    cases hk
    exact hdown
  | refused e =>
    rw [h] at hk
    cases hk
  | detour l target rest =>
    rw [h] at hk
    cases hk

/-! ## 3. What is asked and done at a place -/

section Place

variable (hnormal : NormalPath path) (hne : placeOf path ≠ [])

include hnormal

theorem startOf_of_normal (t : FileTree) : t.startOf (Text.bytesOf path) = [] := by
  unfold startOf
  rw [if_pos hnormal.isAbsolute]

include hne

theorem locate_congr (hsame : t.SameWay t' (placeOf path)) (hdirect : t.Direct (placeOf path))
    (followLast : Bool) :
    t.locate followLast path = t'.locate followLast path ∧
      ∀ k, t.locate followLast path = .ok k → k = placeOf path := by
  obtain ⟨hland, hplace⟩ := land_congr hsame hdirect hnormal.noHere hnormal.noAbove followLast
  simp only [locate_def, walk]
  cases hbytes : pathBytes path with
  | error e => exact ⟨rfl, nofun⟩
  | ok bytes =>
    obtain rfl := (pathBytes_eq_ok_iff.1 hbytes).1
    show (t.land _ _ _ >>= _ : Except SystemError Location) = (t'.land _ _ _ >>= _) ∧ _
    rw [startOf_of_normal hnormal, startOf_of_normal hnormal, hnormal.steps_eq hne, ← hland]
    refine ⟨rfl, fun k hk => ?_⟩
    obtain ⟨x, hx, hk⟩ := bind_eq_ok_iff.1 (show (t.land _ _ _ >>= _) = .ok k from hk)
    rw [Landing.toEntry_eq_ok_iff.1 hk] at hx
    rw [startOf_of_normal hnormal, hnormal.steps_eq hne] at hx
    exact hplace k hx

/-- What a question about the path finds, links followed or not. -/
theorem entryAt_locate_congr (hsame : t.SameWay t' (placeOf path))
    (hdirect : t.Direct (placeOf path)) (followLast : Bool) :
    (t.locate followLast path >>= t.entryAt) = (t'.locate followLast path >>= t'.entryAt) := by
  obtain ⟨hlocate, hplace⟩ := locate_congr hnormal hne hsame hdirect followLast
  rw [← hlocate]
  cases hl : t.locate followLast path with
  | error e => rfl
  | ok k =>
    obtain rfl := hplace k hl
    show t.entryAt _ = t'.entryAt _
    unfold entryAt
    rw [hsame _ List.prefix_rfl]

theorem stat_congr (hsame : t.SameWay t' (placeOf path)) (hdirect : t.Direct (placeOf path)) :
    t.stat path = t'.stat path :=
  entryAt_locate_congr hnormal hne hsame hdirect true

theorem lstat_congr (hsame : t.SameWay t' (placeOf path)) (hdirect : t.Direct (placeOf path)) :
    t.lstat path = t'.lstat path :=
  entryAt_locate_congr hnormal hne hsame hdirect false

/-- The path names its place in both trees, or fails in both alike. -/
theorem slotOf_congr (hsame : t.SameWay t' (placeOf path)) (hdirect : t.Direct (placeOf path)) :
    t.slotOf path = t'.slotOf path ∧
      ∀ slot, t.slotOf path = .ok slot →
        ∃ l name, slot = .named l name ∧ l ++ [name] = placeOf path := by
  obtain ⟨l, name, hplace⟩ := List.eq_nil_or_concat (placeOf path) |>.resolve_left hne
  rw [List.concat_eq_append] at hplace
  have hl : l <+: placeOf path := ⟨[name], hplace.symm⟩
  have hname : name ∈ placeOf path := by simp [hplace]
  have hhere : name ≠ here := fun heq => hnormal.noHere (heq ▸ hname)
  have habove : name ≠ above := fun heq => hnormal.noAbove (heq ▸ hname)
  obtain ⟨hland, hend⟩ := land_congr (hsame.shorter hl) (hdirect.shorter hl)
    (fun hmem => hnormal.noHere (hl.subset hmem)) (fun hmem => hnormal.noAbove (hl.subset hmem))
    true
  have hlast : (namesOf (Text.bytesOf path)).getLast? = some name := by
    show (placeOf path).getLast? = some name
    rw [hplace, List.getLast?_concat]
  have hfront : (namesOf (Text.bytesOf path)).dropLast = l := by
    show (placeOf path).dropLast = l
    rw [hplace, List.dropLast_concat]
  unfold slotOf walk
  cases hbytes : pathBytes path with
  | error e => exact ⟨rfl, nofun⟩
  | ok bytes =>
    obtain rfl := (pathBytes_eq_ok_iff.1 hbytes).1
    simp only [bind, Except.bind, hlast, hfront, startOf_of_normal hnormal, ← hland]
    cases hwalk : t.land true [] l with
    | error e => exact ⟨rfl, nofun⟩
    | ok x =>
      cases x with
      | vacant k => exact ⟨rfl, nofun⟩
      | entry k =>
        obtain rfl := hend k hwalk
        dsimp only [Landing.toEntry]
        rw [hsame.isDirectory hl]
        refine ⟨rfl, fun slot hslot => ?_⟩
        rw [if_neg hhere, if_neg habove] at hslot
        split at hslot
        · cases hslot
        split at hslot
        · cases hslot
        · cases hslot
          exact ⟨k, name, rfl, hplace.symm⟩

/-- With no links on its way, a path names its place. -/
theorem concat_of_slotOf (hdirect : t.Direct (placeOf path)) {l : Location} {name : Name}
    (h : t.slotOf path = .ok (.named l name)) : l ++ [name] = placeOf path := by
  obtain ⟨_, _, heq, hplace⟩ :=
    (slotOf_congr hnormal hne (SameWay.refl t _) hdirect).2 _ h
  cases heq
  exact hplace

end Place

/-! ## 4. Trees that are alike for some paths -/

/-- A name is in a directory exactly if something stands under it. -/
theorem mem_names_iff {name : Name} : name ∈ t.names l ↔ ∃ e, t.get? (l ++ [name]) = some e := by
  unfold names
  rw [List.mem_filterMap]
  constructor
  · rintro ⟨p, hp, hlast⟩
    split at hlast
    · next hl =>
      obtain ⟨front, hfront⟩ := List.getLast?_eq_some_iff.1 hlast
      rw [hfront, List.dropLast_concat] at hl
      rw [← Option.ne_none_iff_exists']
      exact fun hfree => not_mem_of_get?_eq_none hfree p hp (by rw [hfront, hl])
    · cases hlast
  · rintro ⟨e, hget⟩
    refine ⟨(l ++ [name], e), mem_entries_of_get? (by simp) hget, ?_⟩
    rw [if_pos List.dropLast_concat, List.getLast?_concat]

theorem names_eq_nil_iff : t.names l = [] ↔ ∀ name, t.get? (l ++ [name]) = none := by
  rw [List.eq_nil_iff_forall_not_mem]
  refine forall_congr' fun name => ?_
  rw [mem_names_iff, ← Option.ne_none_iff_exists', not_not]

/-- What a tree lists under a location: the entry that is found there, and any that it hides. -/
def listed (t : FileTree) (l : Location) : List (Location × Entry) :=
  t.entries.filter fun p => p.1 = l

theorem get?_of_listed (h : t.listed l = t'.listed l) : t.get? l = t'.get? l := by
  by_cases hl : l = []
  · rw [hl]
    rfl
  · rw [get?_of_ne_nil t hl, get?_of_ne_nil t' hl, ← Association.lookup_filter_eq t.entries,
      ← Association.lookup_filter_eq t'.entries]
    exact congrArg (List.lookup l) h

theorem listed_insert (t : FileTree) (k : Location) (e : Entry) (l : Location) :
    (t.insert k e).listed l = t.listed l ++ if k = l then [(k, e)] else [] := by
  unfold listed FileTree.insert
  rw [List.filter_append, List.filter_singleton]
  by_cases hk : k = l <;> simp [hk]

theorem listed_erase (t : FileTree) (k l : Location) :
    (t.erase k).listed l = if k = l then [] else t.listed l := by
  unfold listed FileTree.erase
  rw [List.filter_filter]
  by_cases hk : k = l
  · rw [if_pos hk, List.filter_eq_nil_iff]
    intro p _ hp
    simp [hk] at hp
  · rw [if_neg hk]
    refine List.filter_congr fun p _ => ?_
    by_cases hp : p.1 = l
    · simp [hp, Ne.symm hk]
    · simp [hp]

/-- Trees that list the same under every location have the same entries, in some order. -/
theorem perm_of_listed (h : ∀ l, t.listed l = t'.listed l) : t.entries.Perm t'.entries := by
  rw [List.perm_iff_count]
  intro p
  have hcount : ∀ ps : List (Location × Entry),
      (ps.filter fun q => q.1 = p.1).count p = ps.count p := by
    intro ps
    exact List.count_filter (decide_eq_true rfl)
  rw [← hcount t.entries, ← hcount t'.entries]
  exact congrArg (List.count p) (h p.1)

/-- Two trees are the same as far as some paths go: on the way to their places, at these places and
    below them. The paths go straight down in both. -/
structure AlikeFor (paths : List String) (t t' : FileTree) : Prop where
  normal : ∀ path ∈ paths, NormalPath path
  proper : ∀ path ∈ paths, placeOf path ≠ []
  direct : ∀ path ∈ paths, t.Direct (placeOf path)
  agree : ∀ path ∈ paths, ∀ l, ¬ l.Apart (placeOf path) → t.listed l = t'.listed l

/-- Two outcomes are the same failure, or two results that go together. -/
def Matching {ε α : Type} (R : α → α → Prop) : Except ε α → Except ε α → Prop
  | .ok a, .ok a' => R a a'
  | .error e, .error e' => e = e'
  | _, _ => False

namespace AlikeFor

variable {paths : List String} {mode : Nat}

theorem sameWay (h : AlikeFor paths t t') (hpath : path ∈ paths) :
    t.SameWay t' (placeOf path) :=
  fun k hk => get?_of_listed (h.agree path hpath k fun hapart => hapart.1 hk)

theorem symm (h : AlikeFor paths t t') : AlikeFor paths t' t where
  normal := h.normal
  proper := h.proper
  direct path hpath := (h.sameWay hpath).direct (h.direct path hpath)
  agree path hpath l hl := (h.agree path hpath l hl).symm

theorem trans {t'' : FileTree} (h : AlikeFor paths t t') (h' : AlikeFor paths t' t'') :
    AlikeFor paths t t'' where
  normal := h.normal
  proper := h.proper
  direct := h.direct
  agree path hpath l hl := (h.agree path hpath l hl).trans (h'.agree path hpath l hl)

/-- The same directory more. -/
theorem insert (h : AlikeFor paths t t') (hfree : t.get? l = none) :
    AlikeFor paths (t.insert l (.directory mode)) (t'.insert l (.directory mode)) where
  normal := h.normal
  proper := h.proper
  direct path hpath k hk target := by
    rw [get?_insert hfree]
    split
    · exact fun heq => by cases heq
    · exact h.direct path hpath k hk target
  agree path hpath k hk := by
    rw [listed_insert, listed_insert, h.agree path hpath k hk]

/-- The same entry less. -/
theorem erase (h : AlikeFor paths t t') (hl : l ≠ []) :
    AlikeFor paths (t.erase l) (t'.erase l) where
  normal := h.normal
  proper := h.proper
  direct path hpath k hk target := by
    rw [get?_erase t hl]
    split
    · exact fun heq => by cases heq
    · exact h.direct path hpath k hk target
  agree path hpath k hk := by
    rw [listed_erase, listed_erase, h.agree path hpath k hk]

theorem stat (h : AlikeFor paths t t') (hpath : path ∈ paths) : t.stat path = t'.stat path :=
  stat_congr (h.normal path hpath) (h.proper path hpath) (h.sameWay hpath) (h.direct path hpath)

theorem lstat (h : AlikeFor paths t t') (hpath : path ∈ paths) : t.lstat path = t'.lstat path :=
  lstat_congr (h.normal path hpath) (h.proper path hpath) (h.sameWay hpath) (h.direct path hpath)

/-- A directory can be made in both trees or in none. -/
theorem makeDirectory (h : AlikeFor paths t t') (hpath : path ∈ paths) :
    Matching (AlikeFor paths) (t.makeDirectory path mode) (t'.makeDirectory path mode) := by
  obtain ⟨hslot, hplace⟩ := slotOf_congr (h.normal path hpath) (h.proper path hpath)
    (h.sameWay hpath) (h.direct path hpath)
  unfold FileTree.makeDirectory
  rw [← hslot]
  cases hx : t.slotOf path with
  | error e => exact rfl
  | ok slot =>
    obtain ⟨l, name, rfl, hl⟩ := hplace slot hx
    have hsame : t.get? (l ++ [name]) = t'.get? (l ++ [name]) :=
      hl ▸ h.sameWay hpath _ List.prefix_rfl
    simp only [bind, Except.bind, ← hsame]
    cases hget : t.get? (l ++ [name]) with
    | some e => exact rfl
    | none => exact h.insert hget

/-- A directory can be removed from both trees or from none. -/
theorem removeDirectory (h : AlikeFor paths t t') (hpath : path ∈ paths) :
    Matching (AlikeFor paths) (t.removeDirectory path) (t'.removeDirectory path) := by
  obtain ⟨hslot, hplace⟩ := slotOf_congr (h.normal path hpath) (h.proper path hpath)
    (h.sameWay hpath) (h.direct path hpath)
  unfold FileTree.removeDirectory
  rw [← hslot]
  cases hx : t.slotOf path with
  | error e => exact rfl
  | ok slot =>
    obtain ⟨l, name, rfl, hl⟩ := hplace slot hx
    have hsame : t.get? (l ++ [name]) = t'.get? (l ++ [name]) :=
      hl ▸ h.sameWay hpath _ List.prefix_rfl
    -- what is below the place counts too
    have hempty : t.names (l ++ [name]) = [] ↔ t'.names (l ++ [name]) = [] := by
      rw [names_eq_nil_iff, names_eq_nil_iff]
      refine forall_congr' fun n => ?_
      rw [get?_of_listed (h.agree path hpath _ fun hapart =>
        hapart.2 (hl ▸ List.prefix_append _ _))]
    simp only [bind, Except.bind, ← hsame, ← hempty]
    cases hget : t.get? (l ++ [name]) with
    | none => exact rfl
    | some e =>
      cases e with
      | directory mode =>
        dsimp only
        split
        · exact h.erase (by simp)
        · exact rfl
      | _ => exact rfl

end AlikeFor

end FileTree

end VolumeNode
