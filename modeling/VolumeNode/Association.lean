/-!
# Association lists

Lists of keys with their values, looked up by key. One equation for each way in which such a list is
changed says what a look-up finds afterwards.
-/

namespace VolumeNode.Association

variable {α β : Type} [DecidableEq α] [BEq α] [LawfulBEq α]

/-- Without a key, that key finds nothing and all others find what they did. -/
theorem lookup_filter_ne (ps : List (α × β)) (a k : α) :
    (ps.filter fun p => p.1 ≠ a).lookup k = if k = a then none else ps.lookup k := by
  induction ps with
  | nil => simp
  | cons p ps ih =>
    obtain ⟨b, c⟩ := p
    by_cases hb : b = a
    · subst hb
      by_cases hk : k = b
      · subst hk
        simpa using ih
      · simpa [List.lookup_cons, beq_eq_false_iff_ne.2 hk, hk] using ih
    · by_cases hk : k = b
      · subst hk
        simp [hb]
      · simpa [List.lookup_cons, beq_eq_false_iff_ne.2 hk, hb] using ih

/-- A key finds the same among its own values. -/
theorem lookup_filter_eq (ps : List (α × β)) (k : α) :
    (ps.filter fun p => p.1 = k).lookup k = ps.lookup k := by
  induction ps with
  | nil => rfl
  | cons p ps ih =>
    obtain ⟨a, b⟩ := p
    by_cases hk : k = a
    · subst hk
      simp
    · simpa [List.lookup_cons, beq_eq_false_iff_ne.2 hk, Ne.symm hk] using ih

/-- A change of the values of one key is seen at that key only. -/
theorem lookup_map_at (ps : List (α × β)) (a k : α) (f : β → β) :
    (ps.map fun p => if p.1 = a then (p.1, f p.2) else p).lookup k =
      if k = a then (ps.lookup a).map f else ps.lookup k := by
  induction ps with
  | nil => simp
  | cons p ps ih =>
    obtain ⟨b, c⟩ := p
    by_cases hk : k = b
    · subst hk
      by_cases ha : k = a
      · subst ha
        simp
      · simp [ha]
    · by_cases ha : b = a
      · subst ha
        simp [List.lookup_cons, beq_eq_false_iff_ne.2 hk, hk, ih]
      · by_cases hka : k = a
        · subst hka
          simp [List.lookup_cons, beq_eq_false_iff_ne.2 hk, ih, ha]
        · simp [List.lookup_cons, beq_eq_false_iff_ne.2 hk, ih, hka, ha]

/-- A new key finds its value, and all others find what they did. -/
theorem lookup_concat {ps : List (α × β)} {a : α} (h : ps.lookup a = none) (b : β) (k : α) :
    (ps ++ [(a, b)]).lookup k = if k = a then some b else ps.lookup k := by
  rw [List.lookup_append]
  by_cases hk : k = a
  · subst hk
    simp [h]
  · simp [List.lookup_cons, beq_eq_false_iff_ne.2 hk, hk]

end VolumeNode.Association
