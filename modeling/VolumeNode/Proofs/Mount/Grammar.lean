import Mathlib.Data.List.Forall2
import Mathlib.Data.List.TakeWhile
import VolumeNode.Mount.TableWriter
import VolumeNode.Proofs.Text.Words

/-!
# The grammar of the mount table

Which texts are mount tables, told without the reader.

* What the reader makes of one field: the options between its commas (`eq_readOptions_iff`) and the
  source of an entry (`ofList_sourceOf`).
* `RawFields` are the fields of a line as they stand in it, `HasFields` says that a line consists of
  them. `IsMountLine` says that there are such fields.
* **`readLine_eq_ok_iff`**: a line is read exactly if it has fields, and as their entry.
* **`readTable_eq_ok_iff`**: a table is read line by line, all of it or nothing. So one bad line
  among any number of good ones spoils it (`exists_readTable_error`).
* What a line says depends on its words only (`HasFields.congr`), so a carriage return at its end
  does not matter. `readTable_line_iff` is the table of one line.
* An escaped text is one word if all its blanks are escaped (`Escape.isWord_escape`).
-/

namespace VolumeNode

namespace MountTable

/-! ## 1. Fields -/

theorem map_toList_readOptions (field : List Char) :
    (readOptions field).map String.toList = Text.splitOn (· == ',') field := by
  simp [readOptions]

/-- **The options of a field are what stands between its commas.** -/
theorem eq_readOptions_iff {field : List Char} {options : List String} :
    options = readOptions field ↔
      options ≠ [] ∧ Text.joinWith ',' (options.map String.toList) = field ∧
        ∀ o ∈ options, ',' ∉ o.toList := by
  constructor
  · intro h
    have hpieces := map_toList_readOptions field
    rw [← h] at hpieces
    refine ⟨fun hnil => ?_, ?_, fun o ho hcomma => ?_⟩
    · rw [hnil] at hpieces
      exact Text.splitOn_ne_nil _ _ hpieces.symm
    · rw [hpieces, Text.joinWith_splitOn]
    · have hmem : o.toList ∈ Text.splitOn (· == ',') field :=
        hpieces ▸ List.mem_map_of_mem ho
      exact absurd (Text.not_of_mem_splitOn hmem ',' hcomma) (by decide)
  · intro ⟨hne, hjoin, hcomma⟩
    rw [← hjoin, LineFields.readOptions_joinWith (by simpa using hne) (by simpa using hcomma)]
    simp

/-- The source of an entry is its device. But a placeholder stands for the node below `/dev` that
    its root names. -/
theorem ofList_sourceOf (device root : List Char) :
    String.ofList (sourceOf device root) =
      if (String.ofList device = "devtmpfs" ∨ String.ofList device = "udev") ∧ root ≠ ['/'] then
        "/dev" ++ String.ofList root
      else String.ofList device := by
  have hplaceholder : MountEntry.placeholders.contains (String.ofList device) = true ↔
      String.ofList device = "devtmpfs" ∨ String.ofList device = "udev" := by
    simp [MountEntry.placeholders]
  simp only [sourceOf, Bool.and_eq_true, hplaceholder, bne_iff_ne]
  split
  · rw [String.ofList_append]
  · rfl

/-! ## 2. Lines -/

/-- The fields of a line as they stand in it. -/
structure RawFields where
  mountNumber : List Char
  parentNumber : List Char
  deviceNumber : List Char
  root : List Char
  path : List Char
  options : List Char
  /-- The optional fields in front of the separator. -/
  extra : List (List Char)
  fsType : List Char
  device : List Char
  /-- What stands behind the device. -/
  rest : List (List Char)
deriving DecidableEq, Repr

namespace RawFields

/-- The fields in their order. -/
def words (f : RawFields) : List (List Char) :=
  f.mountNumber :: f.parentNumber :: f.deviceNumber :: f.root :: f.path :: f.options ::
    (f.extra ++ separator :: f.fsType :: f.device :: f.rest)

/-- The mount that the fields are about. -/
def entry (f : RawFields) : MountEntry :=
  entryOf f.root f.path f.options f.fsType f.device

end RawFields

/-- A line consists of these fields, and the separator is the first one behind the sixth field. -/
structure HasFields (line : List Char) (f : RawFields) : Prop where
  words : Text.words line = f.words
  first : separator ∉ f.extra

/-- A line is about a mount. -/
def IsMountLine (line : List Char) : Prop := ∃ f, HasFields line f

theorem HasFields.congr {s t : List Char} (h : Text.words s = Text.words t) {f : RawFields} :
    HasFields s f ↔ HasFields t f :=
  ⟨fun hs => ⟨h ▸ hs.words, hs.first⟩, fun ht => ⟨h ▸ ht.words, ht.first⟩⟩

theorem HasFields.words_ne_nil {line : List Char} {f : RawFields} (h : HasFields line f) :
    Text.words line ≠ [] := by
  rw [h.words]
  exact List.cons_ne_nil _ _

theorem HasFields.readLine {line : List Char} {f : RawFields} (h : HasFields line f) :
    readLine line = .ok f.entry := by
  unfold MountTable.readLine
  rw [h.words]
  simp only [RawFields.words, LineFields.dropWhile_append_separator h.first]
  rfl

/-- The separator is the first one of its kind. -/
theorem exists_extra_of_dropWhile {more back : List (List Char)} {w : List Char}
    (h : more.dropWhile (· != separator) = w :: back) :
    ∃ extra, more = extra ++ separator :: back ∧ separator ∉ extra := by
  have hfirst := List.head?_dropWhile_not (· != separator) more
  rw [h] at hfirst
  obtain rfl : w = separator := by simpa using hfirst
  refine ⟨more.takeWhile (· != separator), ?_, fun hmem => ?_⟩
  · rw [← h, List.takeWhile_append_dropWhile]
  · simpa using List.mem_takeWhile_imp hmem

/-- **A line is read exactly if it has fields, as the mount that they are about.** -/
theorem readLine_eq_ok_iff {line : List Char} {e : MountEntry} :
    readLine line = .ok e ↔ ∃ f, HasFields line f ∧ e = f.entry := by
  constructor
  · intro h
    unfold readLine at h
    split at h
    next mountNumber parentNumber deviceNumber root path options more hwords =>
      split at h
      · cases h
      next w fsType device rest hdrop =>
        cases h
        obtain ⟨extra, rfl, hfirst⟩ := exists_extra_of_dropWhile hdrop
        exact ⟨⟨mountNumber, parentNumber, deviceNumber, root, path, options, extra, fsType, device,
          rest⟩, ⟨hwords, hfirst⟩, rfl⟩
      · cases h
    · cases h
  · rintro ⟨f, hf, rfl⟩
    exact hf.readLine

/-- Whether a line is about a mount can be found out by reading it. -/
theorem isMountLine_iff {line : List Char} : IsMountLine line ↔ (readLine line).isOk = true := by
  constructor
  · rintro ⟨f, hf⟩
    rw [hf.readLine]
    rfl
  · intro h
    cases hline : readLine line with
    | error e =>
      rw [hline] at h
      cases h
    | ok e =>
      obtain ⟨f, hf, _⟩ := readLine_eq_ok_iff.1 hline
      exact ⟨f, hf⟩

instance (line : List Char) : Decidable (IsMountLine line) :=
  decidable_of_iff _ isMountLine_iff.symm

/-! ## 3. Tables -/

theorem readLines_eq_ok_iff {lines : List (List Char)} {entries : List MountEntry} :
    readLines lines = .ok entries ↔
      List.Forall₂ (fun line e => readLine line = .ok e) lines entries := by
  induction lines generalizing entries with
  | nil =>
    rw [List.forall₂_nil_left_iff, readLines, Except.ok.injEq]
    exact eq_comm
  | cons line lines ih =>
    rw [readLines, List.forall₂_cons_left_iff]
    cases hline : readLine line with
    | error e => exact iff_of_false nofun fun ⟨_, _, h, _⟩ => by cases h
    | ok e =>
      cases hlines : readLines lines with
      | error fault =>
        refine iff_of_false nofun fun ⟨_, rest, _, hrest, _⟩ => ?_
        rw [← ih, hlines] at hrest
        cases hrest
      | ok rest =>
        constructor
        · intro h
          cases h
          exact ⟨e, rest, rfl, ih.1 hlines, rfl⟩
        · rintro ⟨e', rest', he, hrest, rfl⟩
          rw [← ih, hlines] at hrest
          cases he
          cases hrest
          rfl

/-- **A table is read line by line, all of it or nothing.** -/
theorem readTable_eq_ok_iff {content : String} {entries : List MountEntry} :
    readTable content = .ok entries ↔
      List.Forall₂ (fun line e => ∃ f, HasFields line f ∧ e = f.entry)
        (entryLines content.toList) entries := by
  unfold readTable
  rw [readLines_eq_ok_iff]
  simp only [readLine_eq_ok_iff]

theorem isMountLine_of_readTable {content : String} {entries : List MountEntry}
    (h : readTable content = .ok entries) {line : List Char}
    (hline : line ∈ entryLines content.toList) : IsMountLine line := by
  have hall : List.Forall₂ (fun line e => IsMountLine line ∧ ∃ f, HasFields line f ∧ e = f.entry)
      (entryLines content.toList) entries :=
    (readTable_eq_ok_iff.1 h).imp fun line e ⟨f, hf, he⟩ => ⟨⟨f, hf⟩, f, hf, he⟩
  exact ((List.forall₂_and_left _ _).1 hall).1 line hline

/-- One bad line spoils a table, whatever else stands in it. -/
theorem exists_readTable_error {content : String} {line : List Char}
    (hmem : line ∈ Text.lines content.toList) (hblank : Text.isBlankText line = false)
    (hbad : ¬ IsMountLine line) : ∃ e, readTable content = .error e := by
  have hkept : line ∈ entryLines content.toList := List.mem_filter.2 ⟨hmem, by rw [hblank]; rfl⟩
  cases hread : readTable content with
  | error e => exact ⟨e, rfl⟩
  | ok entries => exact absurd (isMountLine_of_readTable hread hkept) hbad

/-! ## 4. Rows -/

/-- A row with words is a line of its own. -/
theorem filter_of_words {line : List Char} (h : Text.words line ≠ []) :
    [line].filter (! Text.isBlankText ·) = [line] := by
  have hblank : Text.isBlankText line = false := by
    rw [← Bool.not_eq_true, ← Text.words_eq_nil_iff]
    exact h
  rw [List.filter_cons_of_pos (by rw [hblank]; rfl), List.filter_nil]

theorem filter_of_blank {line : List Char} (h : Text.isBlankText line = true) :
    [line].filter (! Text.isBlankText ·) = [] := by
  rw [List.filter_cons_of_neg (by rw [h]; exact Bool.false_ne_true), List.filter_nil]

/-- A table of one line is read exactly if the line has fields. -/
theorem readTable_line_iff {line : List Char} (hline : '\n' ∉ line)
    (hwords : Text.words line ≠ []) {entries : List MountEntry} :
    readTable (String.ofList line) = .ok entries ↔
      ∃ f, HasFields line f ∧ entries = [f.entry] := by
  obtain ⟨line', hsame, hlines⟩ := Text.exists_linesOf_cons line []
  have hrows : ∀ row ∈ [line], '\n' ∉ row := by simpa using hline
  have hkept : entryLines line = [line'] := by
    show (Text.lines (Text.joinWith '\n' [line])).filter _ = _
    rw [Text.lines_joinWith hrows, hlines, filter_of_words (by rw [hsame]; exact hwords)]
    rfl
  rw [readTable_eq_ok_iff, String.toList_ofList, hkept, List.forall₂_cons_left_iff]
  simp only [List.forall₂_nil_left_iff, HasFields.congr hsame]
  constructor
  · rintro ⟨_, _, ⟨f, hf, rfl⟩, rfl, rfl⟩
    exact ⟨f, hf, rfl⟩
  · rintro ⟨f, hf, rfl⟩
    exact ⟨f.entry, [], ⟨f, hf, rfl⟩, rfl, rfl⟩

end MountTable

/-! ## 5. Escaped fields -/

namespace Escape

theorem isBlank_digitChar {n : Nat} (hn : n < 8) : Text.isBlank (digitChar n) = false := by
  have hcases : n = 0 ∨ n = 1 ∨ n = 2 ∨ n = 3 ∨ n = 4 ∨ n = 5 ∨ n = 6 ∨ n = 7 := by omega
  rcases hcases with rfl | rfl | rfl | rfl | rfl | rfl | rfl | rfl <;> decide

/-- No blank stands in an escape. -/
theorem isBlank_of_mem_escapeOf {b : UInt8} {c : Char} (hc : c ∈ escapeOf b) :
    Text.isBlank c = false := by
  have hb : b.toNat < 256 := b.toNat_lt
  simp only [escapeOf, List.mem_cons, List.not_mem_nil, or_false] at hc
  rcases hc with rfl | rfl | rfl | rfl
  · decide
  · exact isBlank_digitChar (by omega)
  · exact isBlank_digitChar (by omega)
  · exact isBlank_digitChar (by omega)

/-- The blanks of an escaped text are those of the text that are not escaped. -/
theorem mem_of_mem_escape {chosen : Char → Bool} {text : List Char} {c : Char}
    (hc : c ∈ escape chosen text) (hblank : Text.isBlank c = true) :
    c ∈ text ∧ chosen c = false := by
  obtain ⟨d, hd, hmem⟩ := List.mem_flatMap.1 hc
  cases hchosen : chosen d with
  | true =>
    rw [if_pos hchosen] at hmem
    obtain ⟨b, _, hb⟩ := List.mem_flatMap.1 hmem
    rw [isBlank_of_mem_escapeOf hb] at hblank
    cases hblank
  | false =>
    rw [hchosen, if_neg Bool.false_ne_true, List.mem_singleton] at hmem
    exact hmem ▸ ⟨hd, hchosen⟩

theorem escape_append (chosen : Char → Bool) (s t : List Char) :
    escape chosen (s ++ t) = escape chosen s ++ escape chosen t := by
  unfold escape
  rw [List.flatMap_append]

/-- **An escaped text is one word if all its blanks are escaped.** -/
theorem isWord_escape {chosen : Char → Bool} (hmark : chosen '\\' = true) {text : List Char}
    (hne : text ≠ []) (hall : ∀ c ∈ text, Text.isBlank c = true → chosen c = true) :
    Text.IsWord (escape chosen text) := by
  refine ⟨fun hnil => hne ?_, fun c hc => ?_⟩
  · rw [← unescape_escape hmark text, hnil]
    rfl
  · cases hblank : Text.isBlank c with
    | false => rfl
    | true =>
      obtain ⟨hmem, hfree⟩ := mem_of_mem_escape hc hblank
      rw [hall c hmem hblank] at hfree
      cases hfree

end Escape

end VolumeNode
