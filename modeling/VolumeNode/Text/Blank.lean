import VolumeNode.Text.Split

/-!
# Blanks, words and lines

* `isBlank` is the White_Space property of Unicode.
* `words` are the longest stretches without a blank, `trim` drops blanks at both ends, and a text
  is blank if it holds nothing else (`isBlankText_iff`). Words joined by a blank are read back
  (`words_joinWith`).
* `lines` cuts at line feeds: a carriage return right before a line feed belongs to the line end,
  and a line feed at the end of the text opens no further line.
-/

namespace VolumeNode.Text

/-! ## 1. Blanks -/

/-- Whether a character has the White_Space property. -/
def isBlank (c : Char) : Bool :=
  let n := c.toNat
  (0x9 ≤ n && n ≤ 0xD) || n == 0x20 || n == 0x85 || n == 0xA0 || n == 0x1680 ||
    (0x2000 ≤ n && n ≤ 0x200A) || n == 0x2028 || n == 0x2029 || n == 0x202F || n == 0x205F ||
    n == 0x3000

/-- The ASCII blanks are blanks. -/
theorem isBlank_of_isWhitespace {c : Char} (h : c.isWhitespace = true) : isBlank c = true := by
  simp only [Char.isWhitespace, Bool.or_eq_true, decide_eq_true_eq] at h
  rcases h with (((rfl | rfl) | rfl) | rfl) <;> decide

/-- Whether a text holds blanks only. -/
def isBlankText (text : List Char) : Bool :=
  text.all isBlank

theorem isBlankText_iff (text : List Char) :
    isBlankText text = true ↔ ∀ c ∈ text, isBlank c = true := by
  simp [isBlankText]

/-- A text without the blanks at its two ends. -/
def trim (text : List Char) : List Char :=
  dropEnd isBlank (text.dropWhile isBlank)

/-! ## 2. Words -/

/-- The longest stretches without a blank. -/
def words (text : List Char) : List (List Char) :=
  (splitOn isBlank text).filter (! ·.isEmpty)

@[simp] theorem words_nil : words [] = [] := rfl

/-- No word is empty. -/
theorem ne_nil_of_mem_words {text word : List Char} (h : word ∈ words text) : word ≠ [] := by
  have := (List.mem_filter.1 h).2
  intro hw
  simp [hw] at this

/-- Words between single blanks are read back. -/
theorem words_joinWith {blank : Char} (hb : isBlank blank = true) {ws : List (List Char)}
    (hne : ∀ w ∈ ws, w ≠ []) (h : ∀ w ∈ ws, ∀ c ∈ w, isBlank c = false) :
    words (joinWith blank ws) = ws := by
  by_cases he : ws = []
  · subst he
    rfl
  · rw [words, splitOn_joinWith hb he h, List.filter_eq_self]
    intro w hw
    simpa using hne w hw

/-! ## 3. Lines -/

/-- A line without the carriage return that ends it. -/
def dropReturn (line : List Char) : List Char :=
  if line.getLast? = some '\r' then line.dropLast else line

/-- Reads the stretches between line feeds as lines. -/
def linesOf : List (List Char) → List (List Char)
  | [] => []
  | [last] => if last.isEmpty then [] else [last]
  | line :: rest => dropReturn line :: linesOf rest

/-- The lines of a text. -/
def lines (text : List Char) : List (List Char) :=
  linesOf (splitOn (· == '\n') text)

@[simp] theorem lines_nil : lines [] = [] := rfl

end VolumeNode.Text
