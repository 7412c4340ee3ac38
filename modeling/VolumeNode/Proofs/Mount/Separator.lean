import Mathlib.Data.Nat.Find
import VolumeNode.Proofs.Mount.Grammar

/-!
# Lines by the positions of their words

What a line of the mount table is about, told by the positions of its words.

* The separator of a line is its first `-` behind the six leading words (`SeparatorAt`).
  `separatorAt_iff` says what stands around it.
* `Complete` lines have two words behind their separator. `EntryAt` says which entry is told by the
  words at their positions, and `Shows` what it takes from each of them.
* Just one entry shows given words (`shows_iff`), and **`readLine_eq_ok_iff_entryAt`** says that
  lines are read as that.
* `Faulty` says what is wrong with a line, and **`readLine_eq_error_iff`** that this is what the
  reader says.
-/

namespace VolumeNode.MountTable

variable {line : List Char} {ws : List (List Char)} {i : Nat}

/-! ## 1. The separator -/

/-- The separator is the first word of its kind behind the six leading words. -/
structure SeparatorAt (ws : List (List Char)) (i : Nat) : Prop where
  behind : 6 ≤ i
  here : ws[i]? = some separator
  first : ∀ j, 6 ≤ j → j < i → ws[j]? ≠ some separator

/-- A list has an element first at a position where it can be cut in front of it. -/
theorem first_getElem?_iff {α : Type} {l : List α} {a : α} {n : Nat} :
    (l[n]? = some a ∧ ∀ j < n, l[j]? ≠ some a) ↔
      ∃ front back, l = front ++ a :: back ∧ a ∉ front ∧ front.length = n := by
  constructor
  · intro ⟨hhere, hfirst⟩
    obtain ⟨hn, ha⟩ := List.getElem?_eq_some_iff.1 hhere
    refine ⟨l.take n, l.drop (n + 1), ?_, fun hmem => ?_, List.length_take_of_le hn.le⟩
    · rw [← ha, ← List.drop_eq_getElem_cons hn, List.take_append_drop]
    · obtain ⟨j, hj, hja⟩ := List.mem_take_iff_getElem.1 hmem
      exact hfirst j (by omega) (List.getElem?_eq_some_iff.2 ⟨by omega, hja⟩)
  · intro ⟨front, back, hl, hfront, hlength⟩
    subst hl hlength
    refine ⟨by simp, fun j hj hja => hfront ?_⟩
    rw [List.getElem?_append_left hj] at hja
    exact List.mem_of_getElem? hja

/-- Six words or more have six leading ones. -/
theorem exists_leading (h : 6 ≤ ws.length) :
    ∃ a b c root path options more, ws = a :: b :: c :: root :: path :: options :: more := by
  match ws, h with
  | a :: b :: c :: root :: path :: options :: more, _ =>
    exact ⟨a, b, c, root, path, options, more, rfl⟩

/-- Behind six words the positions are shifted by six. -/
theorem separatorAt_leading_iff {a b c root path options : List Char}
    {more : List (List Char)} :
    SeparatorAt (a :: b :: c :: root :: path :: options :: more) i ↔
      ∃ extra back, more = extra ++ separator :: back ∧ separator ∉ extra ∧
        extra.length + 6 = i := by
  constructor
  · intro h
    obtain ⟨n, rfl⟩ := Nat.exists_eq_add_of_le' h.behind
    have hhere : more[n]? = some separator := h.here
    have hfirst : ∀ j < n, more[j]? ≠ some separator := fun j hj =>
      h.first (j + 6) (by omega) (by omega)
    obtain ⟨extra, back, hmore, hextra, hlength⟩ := first_getElem?_iff.1 ⟨hhere, hfirst⟩
    exact ⟨extra, back, hmore, hextra, by omega⟩
  · intro ⟨extra, back, hmore, hextra, hlength⟩
    obtain ⟨hhere, hfirst⟩ := first_getElem?_iff.2 ⟨extra, back, hmore, hextra, rfl⟩
    subst hlength
    refine ⟨by omega, hhere, fun j hbehind hj => ?_⟩
    obtain ⟨n, rfl⟩ := Nat.exists_eq_add_of_le' hbehind
    exact hfirst n (by omega)

/-- What stands around the separator. -/
theorem separatorAt_iff :
    SeparatorAt ws i ↔ ∃ a b c root path options extra back,
      ws = a :: b :: c :: root :: path :: options :: (extra ++ separator :: back) ∧
        separator ∉ extra ∧ extra.length + 6 = i := by
  constructor
  · intro h
    obtain ⟨hi, _⟩ := List.getElem?_eq_some_iff.1 h.here
    have hlong : 6 ≤ ws.length := h.behind.trans hi.le
    obtain ⟨a, b, c, root, path, options, more, rfl⟩ := exists_leading hlong
    obtain ⟨extra, back, rfl, hextra⟩ := separatorAt_leading_iff.1 h
    exact ⟨a, b, c, root, path, options, extra, back, rfl, hextra⟩
  · intro ⟨a, b, c, root, path, options, extra, back, hws, hextra⟩
    rw [hws]
    exact separatorAt_leading_iff.2 ⟨extra, back, rfl, hextra⟩

/-- There is at most one. -/
theorem SeparatorAt.unique {j : Nat} (hi : SeparatorAt ws i) (hj : SeparatorAt ws j) : i = j := by
  rcases Nat.lt_trichotomy i j with hlt | heq | hgt
  · exact absurd hi.here (hj.first i hi.behind hlt)
  · exact heq
  · exact absurd hj.here (hi.first j hj.behind hgt)

/-! ## 2. Lines that are read -/

/-- Behind the separator there are two words at least. -/
def Complete (ws : List (List Char)) : Prop :=
  ∃ i, SeparatorAt ws i ∧ i + 2 < ws.length

/-- What an entry takes from the words of a line. -/
structure Shows (root path options fsType device : List Char) (e : MountEntry) : Prop where
  path : e.path = String.ofList (Escape.unescape path)
  device : e.device = String.ofList (Escape.unescape device)
  fsType : e.fsType = String.ofList fsType
  /-- The options are what stands between the commas. -/
  options : e.options ≠ [] ∧ Text.joinWith ',' (e.options.map String.toList) = options
  option : ∀ o ∈ e.options, ',' ∉ o.toList
  /-- A placeholder stands for the node below `/dev` that its root names. -/
  node : (e.device = "devtmpfs" ∨ e.device = "udev") ∧ Escape.unescape root ≠ ['/'] →
    e.source = "/dev" ++ String.ofList (Escape.unescape root)
  source : ¬ ((e.device = "devtmpfs" ∨ e.device = "udev") ∧ Escape.unescape root ≠ ['/']) →
    e.source = e.device

/-- An entry is made of the words at these positions. -/
def EntryAt (ws : List (List Char)) (e : MountEntry) : Prop :=
  ∃ i root path options fsType device, SeparatorAt ws i ∧
    ws[3]? = some root ∧ ws[4]? = some path ∧ ws[5]? = some options ∧
    ws[i + 1]? = some fsType ∧ ws[i + 2]? = some device ∧
    Shows root path options fsType device e

section Entry

variable {root path options fsType device : List Char} {e e' : MountEntry}

theorem shows_entryOf (root path options fsType device : List Char) :
    Shows root path options fsType device (entryOf root path options fsType device) :=
  have hoptions := eq_readOptions_iff.1 (rfl : readOptions options = readOptions options)
  { path := rfl
    device := rfl
    fsType := rfl
    options := ⟨hoptions.1, hoptions.2.1⟩
    option := hoptions.2.2
    node := fun h => (ofList_sourceOf _ _).trans (if_pos h)
    source := fun h => (ofList_sourceOf _ _).trans (if_neg h) }

theorem Shows.unique (h : Shows root path options fsType device e)
    (h' : Shows root path options fsType device e') : e = e' := by
  have hdevice : e.device = e'.device := h.device.trans h'.device.symm
  have hoptions : e.options = e'.options :=
    (eq_readOptions_iff.2 ⟨h.options.1, h.options.2, h.option⟩).trans
      (eq_readOptions_iff.2 ⟨h'.options.1, h'.options.2, h'.option⟩).symm
  have hsource : e.source = e'.source := by
    by_cases hnode : (e.device = "devtmpfs" ∨ e.device = "udev") ∧ Escape.unescape root ≠ ['/']
    · exact (h.node hnode).trans (h'.node (hdevice ▸ hnode)).symm
    · rw [h.source hnode, h'.source (hdevice ▸ hnode), hdevice]
  cases e
  cases e'
  simp only [MountEntry.mk.injEq]
  exact ⟨hdevice, hsource, h.path.trans h'.path.symm, h.fsType.trans h'.fsType.symm, hoptions⟩

/-- **Just one entry shows the words of a line.** -/
theorem shows_iff :
    Shows root path options fsType device e ↔ e = entryOf root path options fsType device := by
  constructor
  · intro h
    exact h.unique (shows_entryOf root path options fsType device)
  · intro h
    rw [h]
    exact shows_entryOf root path options fsType device

end Entry

/-- The positions behind the separator. -/
theorem getElem?_behind (a b c root path options : List Char) (extra back : List (List Char))
    (n : Nat) :
    (a :: b :: c :: root :: path :: options :: (extra ++ separator :: back))[
      extra.length + 6 + (n + 1)]? = back[n]? := by
  have hshift : extra.length + 6 + (n + 1) = extra.length + (n + 1) + 6 := by omega
  rw [hshift]
  show (extra ++ separator :: back)[extra.length + (n + 1)]? = _
  rw [List.getElem?_append_right (Nat.le_add_right _ _), Nat.add_sub_cancel_left]
  rfl

/-- The fields of a line are the words at these positions. -/
theorem entryAt_iff {e : MountEntry} :
    EntryAt (Text.words line) e ↔ ∃ f, HasFields line f ∧ e = f.entry := by
  constructor
  · intro ⟨i, root, path, options, fsType, device, hi, hroot, hpath, hoptions, hfs, hdevice, he⟩
    obtain ⟨a, b, c, root', path', options', extra, back, hws, hextra, rfl⟩ :=
      separatorAt_iff.1 hi
    rw [hws] at hroot hpath hoptions hfs hdevice
    rw [getElem?_behind _ _ _ _ _ _ _ _ 0] at hfs
    rw [getElem?_behind _ _ _ _ _ _ _ _ 1] at hdevice
    cases hroot
    cases hpath
    cases hoptions
    match back, hfs, hdevice with
    | _ :: _ :: rest, rfl, rfl =>
      exact ⟨⟨a, b, c, root, path, options, extra, fsType, device, rest⟩, ⟨hws, hextra⟩,
        shows_iff.1 he⟩
  · intro ⟨f, hf, he⟩
    have hat : SeparatorAt f.words (f.extra.length + 6) :=
      separatorAt_iff.2 ⟨_, _, _, _, _, _, f.extra, _, rfl, hf.first, rfl⟩
    have hbehind := getElem?_behind f.mountNumber f.parentNumber f.deviceNumber f.root f.path
      f.options f.extra (f.fsType :: f.device :: f.rest)
    rw [hf.words]
    exact ⟨_, f.root, f.path, f.options, f.fsType, f.device, hat, rfl, rfl, rfl, hbehind 0,
      hbehind 1, shows_iff.2 he⟩

theorem readLine_eq_ok_iff_entryAt {e : MountEntry} :
    readLine line = .ok e ↔ EntryAt (Text.words line) e :=
  readLine_eq_ok_iff.trans entryAt_iff.symm

/-- Behind a separator with two words there are six in front. -/
theorem complete_iff : Complete ws ↔ ∃ e, EntryAt ws e := by
  constructor
  · intro ⟨i, hi, hlong⟩
    have hbehind := hi.behind
    exact ⟨_, i, _, _, _, _, _, hi, List.getElem?_eq_getElem (by omega),
      List.getElem?_eq_getElem (by omega), List.getElem?_eq_getElem (by omega),
      List.getElem?_eq_getElem (by omega), List.getElem?_eq_getElem (by omega),
      shows_entryOf _ _ _ _ _⟩
  · intro ⟨e, i, _, _, _, _, device, hi, _, _, _, _, hdevice, _⟩
    exact ⟨i, hi, (List.getElem?_eq_some_iff.1 hdevice).1⟩

/-! ## 3. Lines that are not read -/

/-- There is a `-` behind the six leading words. -/
def Separated (ws : List (List Char)) : Prop :=
  ∃ i, 6 ≤ i ∧ ws[i]? = some separator

/-- If there is such a word, there is a first one. -/
theorem separated_iff : Separated ws ↔ ∃ i, SeparatorAt ws i := by
  constructor
  · intro h
    obtain ⟨hbehind, hhere⟩ := Nat.find_spec h
    exact ⟨Nat.find h, hbehind, hhere, fun j hj hlt hsep => Nat.find_min h hlt ⟨hj, hsep⟩⟩
  · intro ⟨i, hi⟩
    exact ⟨i, hi.behind, hi.here⟩

/-- What is wrong with a line. -/
inductive Faulty (line : List Char) : LineFault → Prop
  | unseparated (none : ¬ Separated (Text.words line)) : Faulty line (.missingSeparator line)
  | short (some : Separated (Text.words line)) (cut : ¬ Complete (Text.words line)) :
      Faulty line (.truncated line)

theorem Faulty.not_complete {fault : LineFault} (h : Faulty line fault) :
    ¬ Complete (Text.words line) := by
  cases h with
  | unseparated none => exact fun ⟨i, hi, _⟩ => none (separated_iff.2 ⟨i, hi⟩)
  | short some cut => exact cut

/-- Only one thing is wrong with a line. -/
theorem Faulty.unique {fault fault' : LineFault} (h : Faulty line fault)
    (h' : Faulty line fault') : fault = fault' := by
  cases h with
  | unseparated none =>
    cases h' with
    | unseparated _ => rfl
    | short some _ => exact absurd some none
  | short some cut =>
    cases h' with
    | unseparated none => exact absurd some none
    | short _ _ => rfl

theorem faulty_of_readLine {fault : LineFault} (h : readLine line = .error fault) :
    Faulty line fault := by
  have hincomplete : ¬ Complete (Text.words line) := by
    rw [complete_iff]
    intro ⟨e, he⟩
    rw [readLine_eq_ok_iff_entryAt.2 he] at h
    cases h
  unfold readLine at h
  split at h
  next a b c root path options more hwords =>
    split at h
    next hnone =>
      cases h
      refine .unseparated fun hsome => ?_
      obtain ⟨i, hi⟩ := separated_iff.1 hsome
      rw [hwords, separatorAt_leading_iff] at hi
      obtain ⟨extra, back, rfl, _⟩ := hi
      exact absurd (List.dropWhile_eq_nil_iff.1 hnone separator (by simp)) (by simp)
    · cases h
    next hsome _ =>
      cases h
      obtain ⟨w, back, hdrop⟩ := List.exists_cons_of_ne_nil hsome
      obtain ⟨extra, rfl, hextra⟩ := exists_extra_of_dropWhile hdrop
      refine .short (separated_iff.2 ⟨extra.length + 6, ?_⟩) hincomplete
      rw [hwords]
      exact separatorAt_leading_iff.2 ⟨extra, back, rfl, hextra, rfl⟩
  next hfew =>
    cases h
    refine .unseparated fun hsome => ?_
    obtain ⟨i, hi⟩ := separated_iff.1 hsome
    obtain ⟨a, b, c, root, path, options, extra, back, hws, _⟩ := separatorAt_iff.1 hi
    exact hfew _ _ _ _ _ _ _ hws

/-- **A line that is not read is faulty in the way that the reader says.** -/
theorem readLine_eq_error_iff {fault : LineFault} :
    readLine line = .error fault ↔ Faulty line fault := by
  constructor
  · exact faulty_of_readLine
  · intro h
    cases hread : readLine line with
    | ok e => exact absurd (complete_iff.2 ⟨e, readLine_eq_ok_iff_entryAt.1 hread⟩) h.not_complete
    | error fault' => rw [h.unique (faulty_of_readLine hread)]

end VolumeNode.MountTable
