import Mathlib.Data.List.Induction
import VolumeNode.Metrics

/-!
# Tallies

The counts of a row of series, each counted where it stands. What is counted is best said by the
row.

* `Metrics.tally` are these counts. A count is how often the series is in the row (`count_tally`),
  and a sum of counts is how often one of several series is (`total_tally`).
* A page may have two tallies, one behind the other. A count belongs to the one with the series
  (`count_tally_append`).
-/

namespace VolumeNode

namespace Metrics

/-- The counts of a row of series, each counted where it stands. -/
def tally (row : List Series) : Metrics :=
  row.foldl bump []

/-- The sum of the counts of some series. -/
def total (p : Series → Bool) : Metrics → Nat
  | [] => 0
  | (s, n) :: m => (if p s then n else 0) + total p m

theorem tally_append (row row' : List Series) :
    tally (row ++ row') = row'.foldl bump (tally row) :=
  List.foldl_append

theorem tally_concat (row : List Series) (s : Series) : tally (row ++ [s]) = (tally row).bump s :=
  tally_append row [s]

/-- A sum of counts grows by one with each count of a series in it. -/
theorem total_bump (m : Metrics) (s : Series) (p : Series → Bool) :
    (m.bump s).total p = m.total p + if p s then 1 else 0 := by
  induction m with
  | nil => exact Nat.add_comm _ 0
  | cons line m ih =>
    obtain ⟨r, n⟩ := line
    unfold bump
    by_cases hr : r = s
    · subst hr
      rw [if_pos rfl]
      unfold total
      split <;> omega
    · rw [if_neg hr]
      unfold total
      rw [ih, Nat.add_assoc]

/-- A count is how often the series was counted. -/
theorem count_tally (row : List Series) (s : Series) : (tally row).count s = row.count s := by
  induction row using List.reverseRecOn with
  | nil => rfl
  | append_singleton row r ih =>
    rw [tally_concat, count_bump, ih, List.count_append, List.count_singleton]
    by_cases h : s = r
    · rw [h, if_pos rfl, beq_self_eq_true, if_pos rfl]
    · have hne : (r == s) = false := beq_eq_false_iff_ne.2 (Ne.symm h)
      rw [if_neg h, hne]
      rfl

theorem total_tally (row : List Series) (p : Series → Bool) :
    (tally row).total p = row.countP p := by
  induction row using List.reverseRecOn with
  | nil => rfl
  | append_singleton row r ih =>
    rw [tally_concat, total_bump, ih, List.countP_append, List.countP_singleton]

theorem lookup_bump (m : Metrics) (r s : Series) :
    (m.bump r).lookup s = if s = r then some (m.count r + 1) else m.lookup s := by
  induction m with
  | nil =>
    by_cases h : s = r
    · rw [h, if_pos rfl]
      exact List.lookup_cons_self
    · have hne : (s == r) = false := beq_eq_false_iff_ne.2 h
      rw [if_neg h]
      show List.lookup s [(r, 1)] = none
      rw [List.lookup_cons, hne]
      rfl
  | cons line m ih =>
    obtain ⟨q, n⟩ := line
    unfold bump
    by_cases hq : q = r
    · subst hq
      rw [if_pos rfl]
      by_cases h : s = q
      · subst h
        simp [count]
      · have hne : (s == q) = false := beq_eq_false_iff_ne.2 h
        rw [if_neg h, List.lookup_cons, List.lookup_cons, hne]
    · rw [if_neg hq, List.lookup_cons, ih]
      by_cases h : s = q
      · subst h
        simp [hq]
      · have hne : (s == q) = false := beq_eq_false_iff_ne.2 h
        have hqr : (r == q) = false := beq_eq_false_iff_ne.2 (Ne.symm hq)
        simp [hne, hqr, List.lookup_cons, count]

/-- The lines of a tally are the series that were counted. -/
theorem lookup_tally_eq_none_iff {row : List Series} {s : Series} :
    (tally row).lookup s = none ↔ s ∉ row := by
  induction row using List.reverseRecOn with
  | nil => simp [tally]
  | append_singleton row r ih =>
    rw [tally_concat, lookup_bump]
    by_cases h : s = r
    · simp [h]
    · simp [h, ih]

theorem total_append (m m' : Metrics) (p : Series → Bool) :
    (m ++ m').total p = m.total p + m'.total p := by
  induction m with
  | nil => exact (Nat.zero_add _).symm
  | cons line m ih =>
    obtain ⟨s, n⟩ := line
    show (if p s then n else 0) + total p (m ++ m') = _
    rw [ih]
    exact (Nat.add_assoc _ _ _).symm

/-- On a page of two tallies a count belongs to the one with the series. -/
theorem count_tally_append {row row' : List Series} {s : Series} (h : s ∉ row ∨ s ∉ row') :
    (tally row ++ tally row').count s = row.count s + row'.count s := by
  have hlookup : (tally row ++ tally row').count s =
      (((tally row).lookup s).or ((tally row').lookup s)).getD 0 := by
    unfold count
    rw [List.lookup_append]
  by_cases hrow : s ∈ row
  · have hother : s ∉ row' := h.resolve_left (not_not_intro hrow)
    cases hfound : (tally row).lookup s with
    | none => exact absurd hrow (lookup_tally_eq_none_iff.1 hfound)
    | some n =>
      have hcount : (tally row).count s = n := by
        unfold count
        rw [hfound]
        rfl
      rw [hlookup, hfound, List.count_eq_zero_of_not_mem hother, ← count_tally, hcount]
      rfl
  · rw [hlookup, lookup_tally_eq_none_iff.2 hrow, List.count_eq_zero_of_not_mem hrow, Nat.zero_add,
      ← count_tally]
    rfl

end Metrics
end VolumeNode
