import VolumeNode.Call.PlainPath
import VolumeNode.Proofs.Mount.Grammar

/-!
# Mount points in the mount table

The service mounts on the paths of requests and looks for them in the mount table afterwards, letter
by letter. So a path must come back as it is from the line that the kernel writes about it.

* `RawFields.Shows` is a line with a path as its mount point, written as the kernel writes it. The
  kernel escapes spaces, tabs, line feeds and backslashes and leaves all other blanks alone.
* A plain path may hold such blanks (`isControl` is not `isBlank`). The reader cuts the path there:
  its field is what stands before the first of them (`words_escape_point`, `pointStart`).
* **`point_survives_iff`**: a plain path comes back exactly if all its blanks are spaces.
* `point_cut`: a no-break space is enough to lose a mount.
-/

namespace VolumeNode.MountTable

/-! ## 1. Lines about a mount point -/

namespace RawFields

/-- The fields of a line up to the mount point. -/
def front (f : RawFields) : List (List Char) :=
  [f.mountNumber, f.parentNumber, f.deviceNumber, f.root]

/-- The fields of a line behind the mount point. -/
def back (f : RawFields) : List (List Char) :=
  f.options :: (f.extra ++ separator :: f.fsType :: f.device :: f.rest)

/-- The line with these fields. -/
def line (f : RawFields) : List Char :=
  Text.joinWith ' ' f.words

/-- The fields of a line about this mount point. None of the other fields has a blank. -/
structure Shows (f : RawFields) (path : String) : Prop where
  path : f.path = Escape.escape kernelEscaped path.toList
  front : ∀ w ∈ f.front, Text.IsWord w
  back : ∀ w ∈ f.back, Text.IsWord w
  first : separator ∉ f.extra

/-- The words of a line are those of its mount point, between the other fields. -/
theorem words_line {f : RawFields} (hfront : ∀ w ∈ f.front, Text.IsWord w)
    (hback : ∀ w ∈ f.back, Text.IsWord w) :
    Text.words f.line = f.front ++ (Text.words f.path ++ f.back) := by
  have hline : f.line =
      Text.joinWith ' ' f.front ++ ' ' :: (f.path ++ ' ' :: Text.joinWith ' ' f.back) := by
    have hne : f.front ≠ [] := List.cons_ne_nil _ _
    have hne' : f.back ≠ [] := List.cons_ne_nil _ _
    show Text.joinWith ' ' (f.front ++ f.path :: f.back) = _
    rw [Text.joinWith_append ' ' hne (List.cons_ne_nil _ _), Text.joinWith_cons f.path hne']
  rw [hline, Text.words_joinWith_append hfront, Text.words_append_blank (by decide),
    Text.words_joinWith_of_isWord hback]

end RawFields

/-! ## 2. What is read of a mount point -/

/-- A character at which a mount point is not cut. -/
def holds (c : Char) : Bool :=
  ! Text.isBlank c || c == ' '

/-- A path up to the first blank that is no space. -/
def pointStart (path : String) : List Char :=
  path.toList.takeWhile holds

theorem pointStart_eq_iff {path : String} :
    pointStart path = path.toList ↔ ∀ c ∈ path.toList, Text.isBlank c = true → c = ' ' := by
  unfold pointStart
  rw [List.takeWhile_eq_self_iff]
  simp [holds, or_iff_not_imp_left]

section Plain

variable {path : String} (hplain : PlainPath.check path = .ok ())
include hplain

theorem pointStart_ne_nil : pointStart path ≠ [] := by
  have hrooted := ((PlainPath.check_eq_ok_iff path).1 hplain).rooted
  unfold pointStart
  cases hpath : path.toList with
  | nil =>
    rw [hpath] at hrooted
    cases hrooted
  | cons c cs =>
    rw [hpath] at hrooted
    cases hrooted
    exact List.cons_ne_nil _ _

/-- The blanks of a plain path other than spaces are not escaped. -/
theorem not_kernelEscaped {c : Char} (hc : c ∈ path.toList) (hcut : holds c = false) :
    Text.isBlank c = true ∧ kernelEscaped c = false := by
  have hcontrol := ((PlainPath.check_eq_ok_iff path).1 hplain).noControl c hc
  simp only [holds, Bool.or_eq_false_iff, Bool.not_eq_false', beq_eq_false_iff_ne] at hcut
  obtain ⟨hblank, hspace⟩ := hcut
  refine ⟨hblank, ?_⟩
  simp only [kernelEscaped, Bool.or_eq_false_iff, beq_eq_false_iff_ne]
  refine ⟨⟨⟨hspace, ?tab⟩, ?feed⟩, ?backslash⟩
  case tab =>
    rintro rfl
    cases hcontrol
  case feed =>
    rintro rfl
    cases hcontrol
  case backslash =>
    rintro rfl
    cases hblank

/-- **The field of a mount point is the start of the path.** -/
theorem words_escape_point :
    ∃ more, Text.words (Escape.escape kernelEscaped path.toList) =
        Escape.escape kernelEscaped (pointStart path) :: more ∧
      (pointStart path = path.toList → more = []) := by
  have hword : Text.IsWord (Escape.escape kernelEscaped (pointStart path)) := by
    refine Escape.isWord_escape rfl (pointStart_ne_nil hplain) fun c hc hblank => ?_
    have hholds : holds c = true := List.mem_takeWhile_imp hc
    obtain rfl : c = ' ' := by simpa [holds, hblank] using hholds
    rfl
  have hparts : pointStart path ++ path.toList.dropWhile holds = path.toList :=
    List.takeWhile_append_dropWhile
  cases hdrop : path.toList.dropWhile holds with
  | nil =>
    rw [hdrop, List.append_nil] at hparts
    rw [← hparts]
    exact ⟨[], Text.words_of_isWord hword, fun _ => rfl⟩
  | cons c cs =>
    have hcut : holds c = false := by
      have hfirst := List.head?_dropWhile_not holds path.toList
      rw [hdrop] at hfirst
      exact hfirst
    rw [hdrop] at hparts
    have hmem : c ∈ path.toList := by
      rw [← hparts]
      exact List.mem_append_right _ List.mem_cons_self
    obtain ⟨hblank, hfree⟩ := not_kernelEscaped hplain hmem hcut
    have hcons : Escape.escape kernelEscaped (c :: cs) = c :: Escape.escape kernelEscaped cs := by
      show (if kernelEscaped c then _ else [c]) ++ Escape.escape kernelEscaped cs = _
      rw [hfree]
      rfl
    refine ⟨Text.words (Escape.escape kernelEscaped cs), ?_, fun hall => ?_⟩
    · rw [← hparts, Escape.escape_append, hcons, Text.words_append_blank hblank,
        Text.words_of_isWord hword]
      rfl
    · rw [hall] at hparts
      exact absurd (List.append_right_eq_self.1 hparts) (List.cons_ne_nil _ _)

end Plain

/-! ## 3. Mount points that survive -/

/-- A line about a mount point is one line. -/
theorem RawFields.Shows.not_mem_line {f : RawFields} {path : String} (hf : f.Shows path) :
    '\n' ∉ f.line := by
  have hword : ∀ w, Text.IsWord w → '\n' ∉ w := fun w hw hmem => by cases hw.noBlank _ hmem
  intro hmem
  rcases Text.mem_joinWith hmem with h | ⟨w, hw, hin⟩
  · cases h
  · have hparts : f.words = f.front ++ f.path :: f.back := rfl
    rw [hparts, List.mem_append, List.mem_cons] at hw
    rcases hw with hw | rfl | hw
    · exact hword w (hf.front w hw) hin
    · rw [hf.path] at hin
      cases (Escape.mem_of_mem_escape hin (by decide)).2
    · exact hword w (hf.back w hw) hin

section Read

variable {path : String} (hplain : PlainPath.check path = .ok ()) {f : RawFields}
  (hf : f.Shows path)
include hplain hf

/-- The fifth field of the line is the start of the path, and the rest of the path, if there is any,
    moves all fields behind it. -/
theorem words_about :
    ∃ more, Text.words f.line =
        f.front ++ Escape.escape kernelEscaped (pointStart path) :: (more ++ f.back) ∧
      (pointStart path = path.toList → more = []) := by
  obtain ⟨more, hpoint, hmore⟩ := words_escape_point hplain
  refine ⟨more, ?_, hmore⟩
  rw [RawFields.words_line hf.front hf.back, hf.path, hpoint]
  rfl

theorem words_about_ne_nil : Text.words f.line ≠ [] := by
  obtain ⟨more, hwords, _⟩ := words_about hplain hf
  rw [hwords]
  exact List.cons_ne_nil _ _

/-- What is read of the line, if anything, is at the start of the path. -/
theorem path_of_readTable {entries : List MountEntry}
    (hread : readTable (String.ofList f.line) = .ok entries) :
    ∃ e, entries = [e] ∧ e.path = String.ofList (pointStart path) := by
  obtain ⟨more, hwords, _⟩ := words_about hplain hf
  obtain ⟨g, hg, rfl⟩ :=
    (readTable_line_iff hf.not_mem_line (words_about_ne_nil hplain hf)).1 hread
  have hfield : g.path = Escape.escape kernelEscaped (pointStart path) :=
    Option.some.inj (congrArg (fun ws => ws[4]?) (hg.words.symm.trans hwords))
  refine ⟨g.entry, rfl, ?_⟩
  show String.ofList (Escape.unescape g.path) = _
  rw [hfield, Escape.unescape_escape rfl]

/-- A path that is not cut is read with all other fields in their places. -/
theorem readTable_of_whole (hwhole : pointStart path = path.toList) :
    readTable (String.ofList f.line) = .ok [f.entry] ∧ f.entry.path = path := by
  obtain ⟨more, hwords, hmore⟩ := words_about hplain hf
  have hfields : HasFields f.line f := by
    refine ⟨?_, hf.first⟩
    rw [hwords, hmore hwhole, hwhole, ← hf.path]
    rfl
  refine ⟨(readTable_line_iff hf.not_mem_line hfields.words_ne_nil).2 ⟨f, hfields, rfl⟩, ?_⟩
  show String.ofList (Escape.unescape f.path) = path
  rw [hf.path, Escape.unescape_escape rfl, String.ofList_toList]

end Read

/-- **A plain path comes back from the mount table exactly if all its blanks are spaces.** Otherwise
    what comes back, if anything, is the path up to the first other blank. -/
theorem point_survives_iff {path : String} (hplain : PlainPath.check path = .ok ()) {f : RawFields}
    (hf : f.Shows path) :
    (∀ entries, readTable (String.ofList f.line) = .ok entries →
      ∃ e, entries = [e] ∧ e.path = String.ofList (pointStart path)) ∧
    ((∃ e, readTable (String.ofList f.line) = .ok [e] ∧ e.path = path) ↔
      ∀ c ∈ path.toList, Text.isBlank c = true → c = ' ') := by
  refine ⟨fun _ hread => path_of_readTable hplain hf hread, ?_⟩
  rw [← pointStart_eq_iff]
  constructor
  · rintro ⟨e, hread, hpath⟩
    obtain ⟨e', heq, hpath'⟩ := path_of_readTable hplain hf hread
    cases heq
    rw [← String.toList_ofList (l := pointStart path), ← hpath', hpath]
  · intro hwhole
    exact ⟨f.entry, readTable_of_whole hplain hf hwhole⟩

/-- The line that the kernel writes about a device mounted on a path. -/
def lineAbout (path : String) : RawFields where
  mountNumber := ['4', '1']
  parentNumber := ['2', '8']
  deviceNumber := ['8', ':', '1', '6']
  root := ['/']
  path := Escape.escape kernelEscaped path.toList
  options := ['r', 'w']
  extra := [['s', 'h', 'a', 'r', 'e', 'd', ':', '7']]
  fsType := ['e', 'x', 't', '4']
  device := ['/', 'd', '/', 'm']
  rest := [['r', 'w']]

theorem shows_lineAbout (path : String) : (lineAbout path).Shows path where
  path := rfl
  front := (by decide : ∀ w ∈ (lineAbout "").front, Text.IsWord w)
  back := (by decide : ∀ w ∈ (lineAbout "").back, Text.IsWord w)
  first := (by decide : separator ∉ (lineAbout "").extra)

/-- A path with a space and a backslash comes back. -/
theorem point_survives_escaped :
    (∀ c ∈ "/a b\\c".toList, Text.isBlank c = true → c = ' ') ∧
      ∃ e, readTable (String.ofList (lineAbout "/a b\\c").line) = .ok [e] ∧ e.path = "/a b\\c" := by
  have hspaces : ∀ c ∈ "/a b\\c".toList, Text.isBlank c = true → c = ' ' :=
    pointStart_eq_iff.1 (by decide)
  exact ⟨hspaces, (point_survives_iff (by decide) (shows_lineAbout _)).2.2 hspaces⟩

/-- A path with a no-break space is plain and does not come back: it is cut at that space, and what
    follows is taken for the options. -/
theorem point_cut :
    ¬ ∀ (path : String) (f : RawFields), PlainPath.check path = .ok () → f.Shows path →
        ∃ e, readTable (String.ofList f.line) = .ok [e] ∧ e.path = path := by
  intro h
  have hcut : readTable (String.ofList (lineAbout "/a\u00A0b").line) =
      .ok [⟨"/d/m", "/d/m", "/a", "ext4", ["b"]⟩] := by decide +kernel
  obtain ⟨e, he, hpath⟩ := h "/a\u00A0b" _ (by decide) (shows_lineAbout _)
  rw [hcut] at he
  cases he
  exact absurd hpath (by decide)

end VolumeNode.MountTable
