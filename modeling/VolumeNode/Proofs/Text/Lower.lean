import Mathlib.Data.List.Basic
import VolumeNode.Proofs.Text.Ascii
import VolumeNode.Text.LowerCase

/-!
# Names whose lower case is ASCII

The lower case of Unicode maps characters from all over the table. Hardly any of them land in ASCII.

* Each run of the table of lower cases is that of the ASCII capitals, or starts and ends beyond
  ASCII, or is the Kelvin sign, whose lower case is `k` (`exists_lowerRuns_eq`). The capital dotted
  I has an `i` in its lower case, but not alone.
* So an ASCII text without a `k` is the lower case of the texts that are it **up to capitals in
  ASCII, and of no others** (`toLower_eq_iff`).
-/

namespace VolumeNode.Text

/-! ## 1. One character -/

/-- All lower cases of a run are characters beyond ASCII. -/
def LowerRun.LandsBeyond (run : LowerRun) : Prop :=
  0x80 ≤ run.first + run.shift ∧
    (run.last + run.shift < 0xD800 ∨
      0xDFFF < run.first + run.shift ∧ run.last + run.shift < 0x110000)

instance (run : LowerRun) : Decidable run.LandsBeyond :=
  inferInstanceAs (Decidable (_ ∧ _))

/-- The first run is that of the ASCII capitals. All others start beyond ASCII, and only the one of
    the Kelvin sign leads back. -/
theorem exists_lowerRuns_eq : ∃ others, lowerRuns = ⟨0x41, 0x5A, 1, 32⟩ :: others ∧
    ∀ run ∈ others, 0x80 ≤ run.first ∧
      (run.LandsBeyond ∨ run = ⟨0x212A, 0x212A, 1, -8383⟩) :=
  ⟨lowerRuns.tail, rfl, by decide +kernel⟩

theorem LowerRun.lower?_eq_some_iff {run : LowerRun} {n k : Nat} :
    run.lower? n = some k ↔
      run.first ≤ n ∧ n ≤ run.last ∧ (n - run.first) % run.step = 0 ∧
        k = (n + run.shift).toNat := by
  unfold lower?
  split
  · next h =>
    rw [Option.some.injEq]
    exact ⟨fun heq => ⟨h.1, h.2.1, h.2.2, heq.symm⟩, fun heq => heq.2.2.2.symm⟩
  · next h => exact iff_of_false nofun fun h' => h ⟨h'.1, h'.2.1, h'.2.2.1⟩

theorem toLower_ofNat {n : Nat} (hn : n < 0x80) :
    (Char.ofNat n).toLower = Char.ofNat (if 0x41 ≤ n ∧ n ≤ 0x5A then n + 32 else n) := by
  revert n
  decide +kernel

/-- Beyond ASCII, the mapping of ASCII changes nothing. -/
theorem toLower_of_not_isAscii {c : Char} (hc : ¬ IsAscii c) : c.toLower = c := by
  unfold Char.toLower
  rw [dif_neg]
  rintro ⟨_, hle⟩
  exact hc (Nat.lt_of_le_of_lt (UInt32.le_iff_toNat_le.1 hle) (by decide))

/-- The lower case of ASCII is that of its capitals. -/
theorem lowerChar_of_isAscii {c : Char} (hc : IsAscii c) : lowerChar c = [c.toLower] := by
  obtain ⟨others, hruns, hothers⟩ := exists_lowerRuns_eq
  have hnone : others.findSome? (·.lower? c.toNat) = none := by
    rw [List.findSome?_eq_none_iff]
    intro run hrun
    rw [Option.eq_none_iff_forall_not_mem]
    intro k hk
    have hfirst := (LowerRun.lower?_eq_some_iff.1 hk).1
    exact absurd hc (Nat.not_lt.2 ((hothers run hrun).1.trans hfirst))
  have hdotted : c ≠ '\u0130' := by
    rintro rfl
    exact absurd hc (by decide)
  have hlower := toLower_ofNat hc
  rw [Char.ofNat_toNat] at hlower
  unfold lowerChar
  rw [if_neg hdotted, hruns, List.findSome?_cons, hnone, hlower]
  unfold LowerRun.lower?
  by_cases hcapital : 0x41 ≤ c.toNat ∧ c.toNat ≤ 0x5A
  · rw [if_pos ⟨hcapital.1, hcapital.2, Nat.mod_one _⟩, if_pos hcapital]
    rfl
  · rw [if_neg fun h => hcapital ⟨h.1, h.2.1⟩, if_neg hcapital, Char.ofNat_toNat]

/-- What is further on by the distance of a run that lands beyond ASCII is there. -/
theorem LowerRun.LandsBeyond.not_isAscii {run : LowerRun} (h : run.LandsBeyond) {n : Nat}
    (hfirst : run.first ≤ n) (hlast : n ≤ run.last) :
    ¬ IsAscii (Char.ofNat (n + run.shift).toNat) := by
  obtain ⟨hlow, hhigh⟩ := h
  have hvalid : (n + run.shift).toNat.isValidChar := by
    unfold Nat.isValidChar
    omega
  unfold IsAscii
  rw [Utf8.toNat_ofNat_of_valid hvalid]
  omega

/-- The lower case of anything else goes beyond ASCII, or is a `k`. -/
theorem lowerChar_of_not_isAscii {c : Char} (hc : ¬ IsAscii c) :
    lowerChar c = ['k'] ∨ ∃ d ∈ lowerChar c, ¬ IsAscii d := by
  obtain ⟨others, hruns, hothers⟩ := exists_lowerRuns_eq
  unfold lowerChar
  split
  · exact .inr ⟨'\u0307', by simp, by decide⟩
  cases hfind : lowerRuns.findSome? (·.lower? c.toNat) with
  | none => exact .inr ⟨c, by simp, hc⟩
  | some n =>
    obtain ⟨run, hrun, hlower⟩ := List.exists_of_findSome?_eq_some hfind
    obtain ⟨hfirst, hlast, _, rfl⟩ := LowerRun.lower?_eq_some_iff.1 hlower
    rw [hruns, List.mem_cons] at hrun
    rcases hrun with rfl | hrun
    · exact absurd (Nat.lt_of_le_of_lt hlast (by decide)) hc
    rcases (hothers run hrun).2 with hbeyond | rfl
    · exact .inr ⟨_, List.mem_singleton_self _, hbeyond.not_isAscii hfirst hlast⟩
    · obtain hkelvin : c.toNat = 0x212A := Nat.le_antisymm hlast hfirst
      rw [hkelvin]
      exact .inl rfl

/-! ## 2. Texts -/

/-- A text whose lower case is an ASCII text without a `k` is that text up to capitals in ASCII. -/
theorem lowerFrom_eq_iff {target : List Char} (hascii : ∀ c ∈ target, IsAscii c)
    (hk : 'k' ∉ target) (before text : List Char) :
    lowerFrom before text = target ↔ text.map Char.toLower = target := by
  induction text generalizing before target with
  | nil => rfl
  | cons c rest ih =>
    by_cases hc : IsAscii c
    · have hsigma : c ≠ 'Σ' := by
        rintro rfl
        exact absurd hc (by decide)
      rw [lowerFrom, List.map_cons]
      simp only [hsigma, if_false, lowerChar_of_isAscii hc, List.singleton_append]
      cases target with
      | nil => simp
      | cons d target =>
        rw [List.cons.injEq, List.cons.injEq, ih (fun c hc => hascii c (List.mem_cons_of_mem _ hc))
          fun h => hk (List.mem_cons_of_mem _ h)]
    · -- such a character leaves a trace that the text does not have
      have htrace : ∃ d ∈ (if c = 'Σ' then
          if startsCased before && !startsCased rest then ['ς'] else ['σ']
          else lowerChar c), d = 'k' ∨ ¬ IsAscii d := by
        split
        · split
          · exact ⟨'ς', by simp, .inr (by decide)⟩
          · exact ⟨'σ', by simp, .inr (by decide)⟩
        · rcases lowerChar_of_not_isAscii hc with hkelvin | ⟨d, hd, hbeyond⟩
          · exact ⟨'k', by simp [hkelvin], .inl rfl⟩
          · exact ⟨d, hd, .inr hbeyond⟩
      obtain ⟨d, hd, htrace⟩ := htrace
      refine iff_of_false (fun heq => ?_) fun heq => ?_
      · rw [lowerFrom] at heq
        have hmem : d ∈ target := heq ▸ List.mem_append_left _ hd
        rcases htrace with rfl | hbeyond
        · exact hk hmem
        · exact hbeyond (hascii d hmem)
      · have hmem : c ∈ target := by
          rw [← heq, List.map_cons, toLower_of_not_isAscii hc]
          exact List.mem_cons_self
        exact hc (hascii c hmem)

/-- **An ASCII text without a `k` is the lower case of the texts that are it up to capitals in
    ASCII, and of no others.** -/
theorem toLower_eq_iff {target : List Char} (hascii : ∀ c ∈ target, IsAscii c) (hk : 'k' ∉ target)
    (text : List Char) : toLower text = target ↔ text.map Char.toLower = target :=
  lowerFrom_eq_iff hascii hk [] text

/-- With a `k` there is another one. -/
example : toLower ['\u212A'] = ['k'] ∧ ['\u212A'].map Char.toLower ≠ ['k'] := by decide +kernel

end VolumeNode.Text
