/-!
# Splitting lists

* `splitOn p` cuts a list at every element of a class and keeps empty pieces, so a list with `n`
  such elements has `n + 1` pieces (`length_splitOn`).
* `joinWith` puts a separator between pieces; it undoes a cut at that separator
  (`joinWith_splitOn`), and a cut undoes it if no piece holds an element to cut at
  (`splitOn_joinWith`).
* `dropEnd` drops a class of elements from the end.
-/

namespace VolumeNode.Text

variable {α : Type}

/-- Puts an element in front of the first piece. -/
def consFirst (a : α) : List (List α) → List (List α)
  | [] => [[a]]
  | piece :: pieces => (a :: piece) :: pieces

/-- The pieces between the elements of a class; there is always at least one piece. -/
def splitOn (p : α → Bool) : List α → List (List α)
  | [] => [[]]
  | a :: rest => if p a then [] :: splitOn p rest else consFirst a (splitOn p rest)

@[simp] theorem splitOn_nil (p : α → Bool) : splitOn p [] = [[]] := rfl

theorem splitOn_ne_nil (p : α → Bool) (l : List α) : splitOn p l ≠ [] := by
  cases l with
  | nil => simp
  | cons a rest =>
    unfold splitOn
    split
    · simp
    · unfold consFirst
      split <;> simp

@[simp] theorem length_consFirst (a : α) {pieces : List (List α)} (h : pieces ≠ []) :
    (consFirst a pieces).length = pieces.length := by
  cases pieces with
  | nil => exact absurd rfl h
  | cons piece pieces => rfl

/-- One piece more than elements of the class. -/
theorem length_splitOn (p : α → Bool) (l : List α) :
    (splitOn p l).length = l.countP p + 1 := by
  induction l with
  | nil => rfl
  | cons a rest ih =>
    by_cases h : p a
    · simp [splitOn, h, ih]
    · simp [splitOn, h, length_consFirst a (splitOn_ne_nil p rest), ih]

/-- The pieces with a separator between each two of them. -/
def joinWith (separator : α) : List (List α) → List α
  | [] => []
  | [piece] => piece
  | piece :: pieces => piece ++ separator :: joinWith separator pieces

theorem joinWith_cons {separator : α} (piece : List α) {pieces : List (List α)}
    (h : pieces ≠ []) :
    joinWith separator (piece :: pieces) = piece ++ separator :: joinWith separator pieces := by
  cases pieces with
  | nil => exact absurd rfl h
  | cons _ _ => rfl

/-- Joining undoes a cut at one element. -/
theorem joinWith_splitOn [BEq α] [LawfulBEq α] (separator : α) (l : List α) :
    joinWith separator (splitOn (· == separator) l) = l := by
  induction l with
  | nil => rfl
  | cons a rest ih =>
    have hne := splitOn_ne_nil (· == separator) rest
    by_cases h : (a == separator) = true
    · simp only [splitOn, h, if_true]
      rw [joinWith_cons [] hne, ih, eq_of_beq h, List.nil_append]
    · simp only [splitOn, h]
      cases hs : splitOn (· == separator) rest with
      | nil => exact absurd hs hne
      | cons piece pieces =>
        rw [hs] at ih
        cases pieces with
        | nil => simpa [consFirst, joinWith] using ih
        | cons q qs => simpa [consFirst, joinWith] using ih

/-- A piece in front of a separator comes out as the first piece. -/
theorem splitOn_append_cons {p : α → Bool} {piece : List α} (h : ∀ a ∈ piece, p a = false)
    {separator : α} (hs : p separator = true) (rest : List α) :
    splitOn p (piece ++ separator :: rest) = piece :: splitOn p rest := by
  induction piece with
  | nil => simp [splitOn, hs]
  | cons a piece ih =>
    have ha : p a = false := h a List.mem_cons_self
    have ih := ih fun b hb => h b (List.mem_cons_of_mem _ hb)
    simp [splitOn, ha, ih, consFirst]

/-- A list with nothing to cut at is its only piece. -/
theorem splitOn_of_forall {p : α → Bool} {piece : List α} (h : ∀ a ∈ piece, p a = false) :
    splitOn p piece = [piece] := by
  induction piece with
  | nil => rfl
  | cons a piece ih =>
    have ha : p a = false := h a List.mem_cons_self
    have ih := ih fun b hb => h b (List.mem_cons_of_mem _ hb)
    simp [splitOn, ha, ih, consFirst]

/-- A cut undoes joining, if no piece holds an element to cut at. -/
theorem splitOn_joinWith {p : α → Bool} {separator : α} (hs : p separator = true)
    {pieces : List (List α)} (hne : pieces ≠ []) (h : ∀ piece ∈ pieces, ∀ a ∈ piece, p a = false) :
    splitOn p (joinWith separator pieces) = pieces := by
  induction pieces with
  | nil => exact absurd rfl hne
  | cons piece pieces ih =>
    have hpiece := h piece List.mem_cons_self
    by_cases hp : pieces = []
    · subst hp
      exact splitOn_of_forall hpiece
    · rw [joinWith_cons piece hp, splitOn_append_cons hpiece hs,
        ih hp fun q hq => h q (List.mem_cons_of_mem _ hq)]

/-- Drops the longest end within a class. -/
def dropEnd (p : α → Bool) (l : List α) : List α :=
  (l.reverse.dropWhile p).reverse

@[simp] theorem dropEnd_nil (p : α → Bool) : dropEnd p [] = [] := rfl

end VolumeNode.Text
