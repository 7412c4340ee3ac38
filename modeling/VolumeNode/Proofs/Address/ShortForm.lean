import Mathlib.Tactic.IntervalCases
import VolumeNode.Proofs.Address.Grammar

/-!
# The short form of socket addresses

An address is written as a text of it.

* A number is written without zeros in front, so in as few digits as its value needs
  (`isNumber_toDigits`).
* `longestZeros` finds a run of zero groups (`longestZeros_spec`), the longest and the first of that
  length (`longestZeros_longest`). A double colon in its place stands for it.
* **`SocketAddress.hasText_text`**: what is written is a text of the address.
* **`SocketAddress.parse_text`**: so every address is read back from its text.
-/

namespace VolumeNode

/-! ## 1. Numbers -/

namespace AddressReader

variable {base limit n d : Nat} {longest : Option Nat} {leadingZeros : Bool}

theorem digit?_digitChar (hd : d < base) (hbase : base ≤ 16) :
    digit? base (Nat.digitChar d) = some d := by
  have hlt : d < 16 := Nat.lt_of_lt_of_le hd hbase
  interval_cases d <;> simp [digit?, Nat.digitChar, hd]

theorem exists_digits_toDigits (hone : 1 < base) (hbase : base ≤ 16) (n : Nat) :
    ∃ ds, List.Forall₂ (fun c d => digit? base c = some d) (Nat.toDigits base n) ds ∧
      digitsValue base ds = n := by
  induction n using Nat.strong_induction_on with
  | h n ih =>
    by_cases hn : n < base
    · refine ⟨[n], ?_, by simp [digitsValue]⟩
      rw [Nat.toDigits_of_lt_base hn]
      exact .cons (digit?_digitChar hn hbase) .nil
    · have hle : base ≤ n := Nat.le_of_not_lt hn
      obtain ⟨ds, hds, hvalue⟩ := ih (n / base) (Nat.div_lt_self (by omega) hone)
      refine ⟨ds ++ [n % base], ?_, ?_⟩
      · rw [Nat.toDigits_of_base_le hone hle]
        exact List.rel_append hds
          (.cons (digit?_digitChar (Nat.mod_lt _ (by omega)) hbase) .nil)
      · simp only [digitsValue, List.foldl_append, List.foldl_cons, List.foldl_nil] at hvalue ⊢
        rw [hvalue, Nat.div_add_mod']

/-- Only zero is written with a zero in front. -/
theorem eq_zero_of_head?_toDigits (hone : 1 < base) (n : Nat)
    (h : (Nat.toDigits base n).head? = some '0') : n = 0 := by
  induction n using Nat.strong_induction_on with
  | h n ih =>
    by_cases hn : n < base
    · rw [Nat.toDigits_of_lt_base hn] at h
      exact Nat.digitChar_eq_zero.mp (Option.some.inj h)
    · have hle : base ≤ n := Nat.le_of_not_lt hn
      rw [Nat.toDigits_of_base_le hone hle, List.head?_append_of_ne_nil _ Nat.toDigits_ne_nil] at h
      have hzero := ih (n / base) (Nat.div_lt_self (by omega) hone) h
      rw [Nat.div_eq_zero_iff] at hzero
      omega

/-- **A number is written in its digits, and in no more than its value needs.** -/
theorem isNumber_toDigits (hone : 1 < base) (hbase : base ≤ 16) (hn : n < limit)
    (hlongest : ∀ k ∈ longest, 0 < k ∧ limit ≤ base ^ k) :
    IsNumber base limit longest leadingZeros n (Nat.toDigits base n) where
  digits := exists_digits_toDigits hone hbase n
  nonempty := Nat.toDigits_ne_nil
  short k hk :=
    (Nat.length_toDigits_le_iff hone (hlongest k hk).1).mpr
      (Nat.lt_of_lt_of_le hn (hlongest k hk).2)
  plain _ hhead := by simp [eq_zero_of_head?_toDigits hone n hhead]
  below := hn

theorem isByte_decimal (b : UInt8) : IsByte b (decimal b.toNat) :=
  isNumber_toDigits (by decide) (by decide) b.toNat_lt (by simp)

theorem isPort_decimal (port : UInt16) : IsPort port (decimal port.toNat) :=
  isNumber_toDigits (by decide) (by decide) port.toNat_lt (by simp)

theorem isNumber_hexadecimal (g : UInt16) :
    IsNumber 16 65536 (some 4) true g.toNat (hexadecimal g.toNat) :=
  isNumber_toDigits (by decide) (by decide) g.toNat_lt (by simp)

end AddressReader

/-! ## 2. Addresses of four bytes -/

open AddressReader

namespace Ipv4

theorem hasText_text (x : Ipv4) : x.HasText x.text :=
  ⟨decimal x.a.toNat, decimal x.b.toNat, decimal x.c.toNat, decimal x.d.toNat, isByte_decimal x.a,
    isByte_decimal x.b, isByte_decimal x.c, isByte_decimal x.d, by simp [text]⟩

/-- A group is its two bytes. -/
theorem bytes_of_group (g : UInt16) :
    (g / 256).toUInt8.toUInt16 * 256 + g.toUInt8.toUInt16 = g := by
  apply UInt16.toNat_inj.mp
  have hg := g.toNat_lt
  simp
  omega

theorem groups_ofGroups (g h : UInt16) : (ofGroups g h).groups = [g, h] := by
  simp only [ofGroups, groups, bytes_of_group]

end Ipv4

/-! ## 3. Addresses of eight groups -/

namespace Ipv6

theorem hasGroups_groupsText {gs : List UInt16} (h : gs ≠ []) (first : Bool) :
    HasGroups first gs false (colon first ++ groupsText gs) := by
  fun_induction groupsText gs generalizing first with
  | case1 => exact absurd rfl h
  | case2 g =>
    rw [← List.append_nil (hexadecimal _)]
    exact .group (isNumber_hexadecimal g) .empty
  | case3 g gs hgs ih => exact .group (isNumber_hexadecimal g) (ih hgs false)

/-- The groups of a list between colons are groups of the grammar. -/
theorem hasGroups_true_groupsText (gs : List UInt16) : HasGroups true gs false (groupsText gs) := by
  cases gs with
  | nil => exact .empty
  | cons g gs => exact hasGroups_groupsText (List.cons_ne_nil g gs) true

theorem zeroRun_zero (gs : List UInt16) : zeroRun (0 :: gs) = zeroRun gs + 1 := by
  simp [zeroRun]

theorem zeroRun_cons_of_ne {g : UInt16} (hg : g ≠ 0) (gs : List UInt16) :
    zeroRun (g :: gs) = 0 := by
  simp [zeroRun, hg]

theorem replicate_zeroRun_append (gs : List UInt16) :
    List.replicate (zeroRun gs) 0 ++ gs.drop (zeroRun gs) = gs := by
  induction gs with
  | nil => rfl
  | cons g gs ih =>
    by_cases hg : g = 0
    · subst hg
      rw [zeroRun_zero, List.replicate_succ, List.drop_succ_cons, List.cons_append, ih]
    · rw [zeroRun_cons_of_ne hg]
      rfl

/-- A run of zero groups at the front is within the one that is counted. -/
theorem le_zeroRun (k : Nat) (back : List UInt16) : k ≤ zeroRun (List.replicate k 0 ++ back) := by
  induction k with
  | zero => exact Nat.zero_le _
  | succ k ih =>
    rw [List.replicate_succ, List.cons_append, zeroRun_zero]
    exact Nat.succ_le_succ ih

/-- Where the longest run of zero groups is said to be, there is a run of this length. -/
theorem longestZeros_spec (gs : List UInt16) :
    gs = gs.take (longestZeros gs).1 ++ List.replicate (longestZeros gs).2 0 ++
      gs.drop ((longestZeros gs).1 + (longestZeros gs).2) := by
  fun_induction longestZeros gs with
  | case1 => rfl
  | case2 g gs here start length _ _ _ =>
    simpa using (replicate_zeroRun_append (g :: gs)).symm
  | case3 g gs here start length h _ ih =>
    rw [h] at ih
    simpa [Nat.add_right_comm start 1 length] using ih

/-- No run of zero groups is longer, and none of its length begins before it. -/
theorem longestZeros_longest {gs front back : List UInt16} {k : Nat}
    (h : gs = front ++ List.replicate k 0 ++ back) :
    k ≤ (longestZeros gs).2 ∧ (k = (longestZeros gs).2 → (longestZeros gs).1 ≤ front.length) := by
  induction gs generalizing front with
  | nil =>
    obtain ⟨-, rfl, -⟩ : front = [] ∧ k = 0 ∧ back = [] := by simpa using h
    exact ⟨Nat.le_refl _, fun _ => Nat.zero_le _⟩
  | cons g gs ih =>
    cases front with
    | nil =>
      have hhere : k ≤ zeroRun (g :: gs) := h ▸ le_zeroRun k back
      simp only [longestZeros]
      split
      · exact ⟨hhere, fun _ => Nat.zero_le _⟩
      next hlt => exact ⟨by omega, by omega⟩
    | cons g' front =>
      obtain ⟨rfl, hgs⟩ := List.cons.inj h
      obtain ⟨hle, hstart⟩ := ih hgs
      simp only [longestZeros]
      split
      · exact ⟨by omega, fun _ => Nat.zero_le _⟩
      · exact ⟨hle, fun hk => Nat.succ_le_succ (hstart hk)⟩

theorem eq_of_mapped? {gs : List UInt16} {x : Ipv4} (h : mapped? gs = some x) :
    gs = List.replicate 5 0 ++ 0xFFFF :: x.groups := by
  unfold mapped? at h
  split at h
  next g h' =>
    cases h
    rw [Ipv4.groups_ofGroups]
    rfl
  · cases h

/-- **An address of eight groups is written as a text of it.** -/
theorem hasText_text (x : Ipv6) : x.HasText x.text := by
  unfold text
  split
  next v4 hv4 =>
    have hmark : IsNumber 16 65536 (some 4) true (0xFFFF : UInt16).toNat ['f', 'f', 'f', 'f'] :=
      isNumber_hexadecimal 0xFFFF
    exact .short .empty (.group hmark (.bytes v4.hasText_text)) 5 (by decide) (eq_of_mapped? hv4)
  · simp only
    split
    next hlong =>
      rw [List.append_assoc]
      exact .short (hasGroups_true_groupsText _) (hasGroups_true_groupsText _) _
        (Nat.zero_lt_of_lt hlong) (longestZeros_spec x.groups)
    · exact .full (hasGroups_true_groupsText x.groups)

end Ipv6

/-! ## 4. Addresses with a port -/

namespace SocketAddress

/-- **What is written is a text of the address.** -/
theorem hasText_text (a : SocketAddress) : a.HasText a.text.toList := by
  cases a with
  | v4 x port =>
    rw [text, String.toList_ofList]
    exact .v4 x.hasText_text (isPort_decimal port)
  | v6 x scope port =>
    rw [text, String.toList_ofList]
    simp only [List.cons_append, List.append_assoc]
    refine .v6 x.hasText_text ?_ (isPort_decimal port)
    split
    next h => exact h ▸ .zero
    · exact .given (isNumber_toDigits (by decide) (by decide) scope.toNat_lt (by simp))

/-- **Every address is read back from its text.** -/
theorem parse_text (a : SocketAddress) : parse a.text = some a :=
  parse_eq_some_iff.mpr a.hasText_text

-- Of two runs of zero groups that are equally long, the first is left out.
example : (v6 ⟨[0x2001, 0xdb8, 0, 0, 1, 0, 0, 1], rfl⟩ 3 80).text = "[2001:db8::1:0:0:1%3]:80" := by
  decide

end SocketAddress

end VolumeNode
