import VolumeNode.Proofs.Mount.Grammar

/-!
# Written tables are read back

* `LineFields.Writable` says what the fields of a mount have to be for their line: root, mount point
  and device may be any texts, for their blanks are escaped; what stands behind the device may be
  anything.
* `Rows` are the rows of a table: a line for each mount, and rows of blanks anywhere between them.
* `LineFields.IsAbout` says which entry shows these fields.
* **`readTable_rows`**: a table is read as one entry for each mount, in their order, which shows the
  fields as they were before anything was escaped.
-/

namespace VolumeNode.MountTable

namespace LineFields

/-! ## 1. What can be written -/

/-- What the fields of a mount have to be for their line. -/
structure Writable (l : LineFields) : Prop where
  numbers : ∀ w ∈ [l.mountNumber, l.parentNumber, l.deviceNumber], Text.IsWord w
  root : l.root ≠ []
  path : l.path ≠ []
  options : l.options ≠ []
  option : ∀ o ∈ l.options, Text.IsWord o ∧ ',' ∉ o
  extra : ∀ w ∈ l.extra, Text.IsWord w ∧ w ≠ separator
  fsType : Text.IsWord l.fsType
  device : l.device ≠ []
  rest : ∀ w ∈ l.rest, '\n' ∉ w

/-- An entry shows the fields of a mount. -/
structure IsAbout (l : LineFields) (e : MountEntry) : Prop where
  path : e.path = String.ofList l.path
  device : e.device = String.ofList l.device
  fsType : e.fsType = String.ofList l.fsType
  options : e.options = l.options.map String.ofList
  /-- A placeholder stands for the node below `/dev` that its root names. -/
  node : (e.device = "devtmpfs" ∨ e.device = "udev") ∧ l.root ≠ ['/'] →
    e.source = "/dev" ++ String.ofList l.root
  source : ¬ ((e.device = "devtmpfs" ∨ e.device = "udev") ∧ l.root ≠ ['/']) → e.source = e.device

/-- The fields up to the device, as they are written. -/
def written (l : LineFields) : List (List Char) :=
  l.mountNumber :: l.parentNumber :: l.deviceNumber :: Escape.escape blankEscaped l.root ::
    Escape.escape blankEscaped l.path :: Text.joinWith ',' l.options ::
    (l.extra ++ [separator, l.fsType, Escape.escape blankEscaped l.device])

theorem words_eq (l : LineFields) : l.words blankEscaped = l.written ++ l.rest := by
  simp [words, written]

theorem isWord_escape_blank {text : List Char} (hne : text ≠ []) :
    Text.IsWord (Escape.escape blankEscaped text) :=
  Escape.isWord_escape (by decide) hne fun c _ hblank => by
    unfold blankEscaped
    rw [hblank]
    rfl

/-- Options with commas between them are one word. -/
theorem Writable.isWord_options {l : LineFields} (h : l.Writable) :
    Text.IsWord (Text.joinWith ',' l.options) := by
  refine ⟨fun hnil => ?_, fun c hc => ?_⟩
  · obtain ⟨o, options, ho⟩ := List.exists_cons_of_ne_nil h.options
    have hword := (h.option o (ho ▸ List.mem_cons_self)).1
    by_cases hone : options = []
    · rw [ho, hone] at hnil
      exact hword.nonempty hnil
    · rw [ho, Text.joinWith_cons o hone] at hnil
      exact hword.nonempty (List.append_eq_nil_iff.1 hnil).1
  · rcases Text.mem_joinWith hc with rfl | ⟨o, ho, hmem⟩
    · decide
    · exact (h.option o ho).1.noBlank c hmem

theorem Writable.isWord_written {l : LineFields} (h : l.Writable) :
    ∀ w ∈ l.written, Text.IsWord w := by
  have hseparator : Text.IsWord separator := by decide
  have hextra : ∀ w ∈ l.extra, Text.IsWord w := fun w hw => (h.extra w hw).1
  have hnumbers := h.numbers
  simp only [List.forall_mem_cons] at hnumbers
  obtain ⟨hmount, hparent, hdevice, _⟩ := hnumbers
  unfold written
  simp only [List.forall_mem_cons, List.forall_mem_append]
  exact ⟨hmount, hparent, hdevice, isWord_escape_blank h.root, isWord_escape_blank h.path,
    h.isWord_options, hextra, hseparator, h.fsType, isWord_escape_blank h.device, nofun⟩

/-! ## 2. One line -/

/-- The same fields, with what stands behind the device taken word by word. It may be any number of
    words. -/
def regrouped (l : LineFields) : LineFields :=
  { l with rest := Text.words (Text.joinWith ' ' l.rest) }

theorem Writable.words_write {l : LineFields} (h : l.Writable) :
    Text.words (l.write blankEscaped) = l.regrouped.words blankEscaped := by
  show Text.words (Text.joinWith ' ' (l.words blankEscaped)) = _
  rw [words_eq, words_eq]
  show _ = l.written ++ Text.words (Text.joinWith ' ' l.rest)
  have hne : l.written ≠ [] := List.cons_ne_nil _ _
  by_cases hnil : l.rest = []
  · rw [hnil, List.append_nil, Text.words_joinWith_of_isWord h.isWord_written]
    exact (List.append_nil _).symm
  · rw [Text.joinWith_append ' ' hne hnil, Text.words_joinWith_append h.isWord_written]

theorem Writable.isWord_regrouped {l : LineFields} (h : l.Writable) :
    ∀ w ∈ l.regrouped.words blankEscaped, Text.IsWord w := by
  rw [words_eq]
  intro w hw
  rcases List.mem_append.1 hw with hw | hw
  · exact h.isWord_written w hw
  · exact Text.isWord_of_mem_words hw

theorem Writable.readable_regrouped {l : LineFields} (h : l.Writable) :
    l.regrouped.Readable blankEscaped where
  backslash := by decide
  nonempty := fun w hw => (h.isWord_regrouped w hw).nonempty
  noBlank := fun w hw => (h.isWord_regrouped w hw).noBlank
  options := h.options
  noComma := fun o ho => (h.option o ho).2
  extra := fun hmem => (h.extra _ hmem).2 rfl

/-- **A written line has fields, and their entry is that of the mount.** -/
theorem Writable.exists_hasFields {l : LineFields} (h : l.Writable) :
    ∃ f, HasFields (l.write blankEscaped) f ∧ l.entry = f.entry := by
  obtain ⟨f, hf, he⟩ := readLine_eq_ok_iff.1 (readLine_write h.readable_regrouped)
  have hsame : Text.words (l.regrouped.write blankEscaped) = Text.words (l.write blankEscaped) := by
    rw [h.words_write]
    exact Text.words_joinWith_of_isWord h.isWord_regrouped
  exact ⟨f, (HasFields.congr hsame).1 hf, he⟩

theorem isAbout_entry (l : LineFields) : l.IsAbout l.entry where
  path := rfl
  device := rfl
  fsType := rfl
  options := rfl
  node := fun h => (ofList_sourceOf l.device l.root).trans (if_pos h)
  source := fun h => (ofList_sourceOf l.device l.root).trans (if_neg h)

/-- A written line is one line. -/
theorem Writable.not_mem_write {l : LineFields} (h : l.Writable) : '\n' ∉ l.write blankEscaped := by
  intro hmem
  rcases Text.mem_joinWith hmem with hc | ⟨w, hw, hin⟩
  · cases hc
  · rw [words_eq, List.mem_append] at hw
    rcases hw with hw | hw
    · cases (h.isWord_written w hw).noBlank _ hin
    · exact h.rest w hw hin

end LineFields

/-! ## 3. Whole tables -/

/-- The rows of a table of these mounts: a line for each of them, and rows of blanks. -/
inductive Rows : List LineFields → List (List Char) → Prop
  | nil : Rows [] []
  | blank {ls : List LineFields} {rows : List (List Char)} (row : List Char)
      (blank : Text.isBlankText row = true) (one : '\n' ∉ row) (h : Rows ls rows) :
      Rows ls (row :: rows)
  | line {ls : List LineFields} {rows : List (List Char)} (l : LineFields) (h : Rows ls rows) :
      Rows (l :: ls) (l.write blankEscaped :: rows)

theorem Rows.not_mem {ls : List LineFields} {rows : List (List Char)} (h : Rows ls rows)
    (hall : ∀ l ∈ ls, l.Writable) : ∀ row ∈ rows, '\n' ∉ row := by
  induction h with
  | nil => exact nofun
  | blank row blank one h ih => exact List.forall_mem_cons.2 ⟨one, ih hall⟩
  | line l h ih =>
    rw [List.forall_mem_cons] at hall
    exact List.forall_mem_cons.2 ⟨hall.1.not_mem_write, ih hall.2⟩

/-- The lines that are kept are those of the mounts, in their order. -/
theorem Rows.kept {ls : List LineFields} {rows : List (List Char)} (h : Rows ls rows)
    (hall : ∀ l ∈ ls, l.Writable) :
    List.Forall₂ (fun line e => ∃ f, HasFields line f ∧ e = f.entry)
      ((Text.linesOf rows).filter (! Text.isBlankText ·)) (ls.map LineFields.entry) := by
  induction h with
  | nil => exact .nil
  | blank row blank one h ih =>
    obtain ⟨line, hsame, hlines⟩ := Text.exists_linesOf_cons row _
    rw [hlines, filter_of_blank (by rw [Text.isBlankText_congr hsame]; exact blank)]
    exact ih hall
  | line l h ih =>
    rw [List.forall_mem_cons] at hall
    obtain ⟨f, hf, he⟩ := hall.1.exists_hasFields
    obtain ⟨line, hsame, hlines⟩ := Text.exists_linesOf_cons (l.write blankEscaped) _
    have hline := (HasFields.congr hsame).2 hf
    rw [hlines, filter_of_words hline.words_ne_nil]
    exact .cons ⟨f, hline, he⟩ (ih hall.2)

/-- **A written table is read back**: as one entry for each mount, in their order. -/
theorem readTable_rows {ls : List LineFields} {rows : List (List Char)} (hrows : Rows ls rows)
    (hall : ∀ l ∈ ls, l.Writable) :
    ∃ entries, readTable (String.ofList (Text.joinWith '\n' rows)) = .ok entries ∧
      List.Forall₂ LineFields.IsAbout ls entries := by
  refine ⟨ls.map LineFields.entry, ?_, ?_⟩
  · rw [readTable_eq_ok_iff, String.toList_ofList]
    unfold entryLines
    rw [Text.lines_joinWith (hrows.not_mem hall)]
    exact hrows.kept hall
  · rw [List.forall₂_map_right_iff, List.forall₂_same]
    exact fun l _ => l.isAbout_entry

/-- A device node bound to a directory whose name is full of blanks, `/p q` with a no-break space
    and a tab behind it. One of the options is a `-`, and the line ends in a blank. -/
def blankPlace : LineFields where
  mountNumber := ['3', '3']
  parentNumber := ['2', '2']
  deviceNumber := ['0', ':', '5']
  root := ['/', 's', 'd', '\\', 'c']
  path := ['/', 'p', ' ', 'q', '\u00A0', '\t']
  options := [['-'], ['r', 'o']]
  extra := [['-', 'x'], ['s', 'h', 'a', 'r', 'e', 'd', ':', '7']]
  fsType := ['-']
  device := ['u', 'd', 'e', 'v']
  rest := [[]]

/-- It comes back, with a row of blanks in front of it and a carriage return behind. -/
theorem readTable_blankPlace :
    ∃ entries, readTable (String.ofList (Text.joinWith '\n'
        [[' ', '\u3000'], blankPlace.write blankEscaped, ['\r']])) = .ok entries ∧
      List.Forall₂ LineFields.IsAbout [blankPlace] entries := by
  have hwritable : blankPlace.Writable :=
    ⟨by decide, by decide, by decide, by decide, by decide, by decide, by decide, by decide,
      by decide⟩
  have hrows : Rows [blankPlace] [[' ', '\u3000'], blankPlace.write blankEscaped, ['\r']] :=
    .blank _ (by decide) (by decide) (.line _ (.blank _ (by decide) (by decide) .nil))
  exact readTable_rows hrows (List.forall_mem_singleton.2 hwritable)

end VolumeNode.MountTable
