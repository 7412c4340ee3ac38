import VolumeNode.Text.Blank

/-!
# Words and lines of composed texts

What becomes of a text whose parts are known.

* **A blank cuts the words of a text in two** (`words_append_blank`); all that is said about words
  here follows from this one equation.
* `IsWord` is a text that is one word. Words with blanks between them are read back in front of any
  further text (`words_joinWith_append`).
* `words_eq_nil_iff`: only texts of blanks have no words.
* Rows between line feeds come back as lines, all but the carriage returns at their ends, and those
  belong to no word (`exists_linesOf_cons`).
-/

namespace VolumeNode.Text

/-! ## 1. Words -/

/-- A text that is one word. -/
structure IsWord (w : List Char) : Prop where
  nonempty : w ≠ []
  noBlank : ∀ c ∈ w, isBlank c = false

instance (w : List Char) : Decidable (IsWord w) :=
  decidable_of_iff (w ≠ [] ∧ w.all (! isBlank ·) = true)
    ⟨fun h => ⟨h.1, by simpa using h.2⟩, fun h => ⟨h.nonempty, by simpa using h.noBlank⟩⟩

/-- A cut at an element parts the pieces before it from the pieces behind it. -/
theorem splitOn_append {α : Type} {p : α → Bool} {a : α} (ha : p a = true) (s t : List α) :
    splitOn p (s ++ a :: t) = splitOn p s ++ splitOn p t := by
  induction s with
  | nil =>
    show splitOn p (a :: t) = [] :: splitOn p t
    rw [splitOn, if_pos ha]
  | cons b s ih =>
    rw [List.cons_append, splitOn, splitOn, ih]
    by_cases hb : p b = true
    · rw [if_pos hb, if_pos hb]
      rfl
    · rw [if_neg hb, if_neg hb]
      obtain ⟨piece, pieces, hs⟩ := List.exists_cons_of_ne_nil (splitOn_ne_nil p s)
      rw [hs]
      rfl

/-- All that is in a piece was in the list. -/
theorem mem_of_mem_splitOn {α : Type} {p : α → Bool} {l piece : List α} (h : piece ∈ splitOn p l)
    {a : α} (ha : a ∈ piece) : a ∈ l := by
  induction l generalizing piece with
  | nil =>
    rw [splitOn_nil, List.mem_singleton] at h
    rwa [h] at ha
  | cons b l ih =>
    obtain ⟨q, qs, hs⟩ := List.exists_cons_of_ne_nil (splitOn_ne_nil p l)
    rw [splitOn, hs] at h
    rw [hs] at ih
    cases hb : p b with
    | true =>
      rw [if_pos hb, List.mem_cons] at h
      rcases h with rfl | h
      · cases ha
      · exact List.mem_cons_of_mem _ (ih h ha)
    | false =>
      rw [hb, if_neg Bool.false_ne_true, consFirst, List.mem_cons] at h
      rcases h with rfl | h
      · rcases List.mem_cons.1 ha with rfl | ha
        · exact List.mem_cons_self
        · exact List.mem_cons_of_mem _ (ih List.mem_cons_self ha)
      · exact List.mem_cons_of_mem _ (ih (List.mem_cons_of_mem _ h) ha)

/-- No piece holds an element to cut at. -/
theorem not_of_mem_splitOn {α : Type} {p : α → Bool} {l piece : List α} (h : piece ∈ splitOn p l) :
    ∀ a ∈ piece, p a = false := by
  induction l generalizing piece with
  | nil =>
    rw [splitOn_nil, List.mem_singleton] at h
    subst h
    exact nofun
  | cons b l ih =>
    obtain ⟨q, qs, hs⟩ := List.exists_cons_of_ne_nil (splitOn_ne_nil p l)
    rw [splitOn, hs] at h
    rw [hs] at ih
    cases hb : p b with
    | true =>
      rw [if_pos hb, List.mem_cons] at h
      rcases h with rfl | h
      · exact nofun
      · exact ih h
    | false =>
      rw [hb, if_neg Bool.false_ne_true, consFirst, List.mem_cons] at h
      rcases h with rfl | h
      · exact List.forall_mem_cons.2 ⟨hb, ih List.mem_cons_self⟩
      · exact ih (List.mem_cons_of_mem _ h)

/-- **A blank cuts the words of a text in two.** -/
theorem words_append_blank {b : Char} (hb : isBlank b = true) (s t : List Char) :
    words (s ++ b :: t) = words s ++ words t := by
  unfold words
  rw [splitOn_append hb, List.filter_append]

theorem words_of_isWord {w : List Char} (hw : IsWord w) : words w = [w] := by
  unfold words
  rw [splitOn_of_forall hw.noBlank, List.filter_cons_of_pos (by simpa using hw.nonempty),
    List.filter_nil]

/-- Words between spaces are read back. -/
theorem words_joinWith_of_isWord {ws : List (List Char)} (hws : ∀ w ∈ ws, IsWord w) :
    words (joinWith ' ' ws) = ws :=
  words_joinWith (by decide) (fun w hw => (hws w hw).nonempty) fun w hw => (hws w hw).noBlank

/-- And so they are in front of any further text. -/
theorem words_joinWith_append {ws : List (List Char)} (hws : ∀ w ∈ ws, IsWord w)
    (tail : List Char) : words (joinWith ' ' ws ++ ' ' :: tail) = ws ++ words tail := by
  rw [words_append_blank (by decide), words_joinWith_of_isWord hws]

theorem joinWith_append {α : Type} (separator : α) {front back : List (List α)} (hf : front ≠ [])
    (hb : back ≠ []) :
    joinWith separator (front ++ back) =
      joinWith separator front ++ separator :: joinWith separator back := by
  induction front with
  | nil => exact absurd rfl hf
  | cons piece front ih =>
    by_cases hnil : front = []
    · subst hnil
      exact joinWith_cons piece hb
    · have hne : front ++ back ≠ [] := fun h => hnil (List.append_eq_nil_iff.1 h).1
      rw [List.cons_append, joinWith_cons piece hne, joinWith_cons piece hnil, ih hnil,
        List.append_assoc]
      rfl

/-- What stands in a joined text stands in a piece, or is the separator. -/
theorem mem_joinWith {α : Type} {separator a : α} {pieces : List (List α)}
    (h : a ∈ joinWith separator pieces) : a = separator ∨ ∃ piece ∈ pieces, a ∈ piece := by
  induction pieces with
  | nil => cases h
  | cons piece pieces ih =>
    by_cases hnil : pieces = []
    · subst hnil
      exact .inr ⟨piece, List.mem_singleton_self _, h⟩
    · rw [joinWith_cons piece hnil, List.mem_append, List.mem_cons] at h
      rcases h with h | h | h
      · exact .inr ⟨piece, List.mem_cons_self, h⟩
      · exact .inl h
      · exact (ih h).imp_right fun ⟨q, hq, ha⟩ => ⟨q, List.mem_cons_of_mem _ hq, ha⟩

theorem words_cons_blank {b : Char} (hb : isBlank b = true) (t : List Char) :
    words (b :: t) = words t :=
  words_append_blank hb [] t

/-- A character that is no blank belongs to a word. -/
theorem words_cons_ne_nil {c : Char} (hc : isBlank c = false) (t : List Char) :
    words (c :: t) ≠ [] := by
  obtain ⟨piece, pieces, hs⟩ := List.exists_cons_of_ne_nil (splitOn_ne_nil isBlank t)
  unfold words
  rw [splitOn, hc, if_neg Bool.false_ne_true, hs, consFirst, List.filter_cons_of_pos rfl]
  exact List.cons_ne_nil _ _

/-- Only texts of blanks have no words. -/
theorem words_eq_nil_iff {text : List Char} : words text = [] ↔ isBlankText text = true := by
  induction text with
  | nil => exact iff_of_true rfl rfl
  | cons c text ih =>
    unfold isBlankText at ih ⊢
    rw [List.all_cons]
    cases hc : isBlank c with
    | true => rw [words_cons_blank hc, ih, Bool.true_and]
    | false => exact iff_of_false (words_cons_ne_nil hc text) Bool.false_ne_true

theorem isBlankText_congr {s t : List Char} (h : words s = words t) :
    isBlankText s = isBlankText t := by
  rw [Bool.eq_iff_iff, ← words_eq_nil_iff, ← words_eq_nil_iff, h]

theorem isWord_of_mem_words {text w : List Char} (h : w ∈ words text) : IsWord w := by
  refine ⟨ne_nil_of_mem_words h, ?_⟩
  exact not_of_mem_splitOn (List.mem_filter.1 h).1

/-! ## 2. Lines -/

/-- The carriage return at the end of a line belongs to no word. -/
theorem words_dropReturn (line : List Char) : words (dropReturn line) = words line := by
  unfold dropReturn
  by_cases hr : line.getLast? = some '\r'
  · rw [if_pos hr]
    obtain ⟨front, rfl⟩ := List.getLast?_eq_some_iff.1 hr
    rw [List.dropLast_concat, words_append_blank (by decide), words_nil, List.append_nil]
  · rw [if_neg hr]

/-- The first of some rows comes back with its words, and so do the others, each by itself. -/
theorem exists_linesOf_cons (row : List Char) (rows : List (List Char)) :
    ∃ line, words line = words row ∧
      (linesOf (row :: rows)).filter (! isBlankText ·) =
        [line].filter (! isBlankText ·) ++ (linesOf rows).filter (! isBlankText ·) := by
  cases rows with
  | nil =>
    refine ⟨row, rfl, ?_⟩
    unfold linesOf
    by_cases hrow : row.isEmpty = true
    · rw [if_pos hrow, List.isEmpty_iff.1 hrow]
      rfl
    · rw [if_neg hrow]
      exact (List.append_nil _).symm
  | cons next rows =>
    refine ⟨dropReturn row, words_dropReturn row, ?_⟩
    rw [linesOf, ← List.singleton_append, List.filter_append]
    exact List.cons_ne_nil _ _

/-- Rows between line feeds are the stretches that the lines are made of. -/
theorem lines_joinWith {rows : List (List Char)} (hrows : ∀ row ∈ rows, '\n' ∉ row) :
    lines (joinWith '\n' rows) = linesOf rows := by
  unfold lines
  by_cases hnil : rows = []
  · subst hnil
    rfl
  · rw [splitOn_joinWith (by rfl) hnil]
    intro row hrow c hc
    have hne : c ≠ '\n' := fun h => hrows row hrow (h ▸ hc)
    simpa using hne

end VolumeNode.Text
