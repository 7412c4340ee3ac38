import Mathlib.Algebra.Group.Nat.Defs
import Mathlib.Data.List.Infix
import VolumeNode.Text.Utf8

/-!
# ASCII in bytes that are not all UTF-8

Bytes that are no UTF-8 read as replacements, and it is not obvious that this leaves the rest alone.
It does for ASCII: a lossy reading neither hides an ASCII text nor makes one up.

* An ASCII byte completes its own character in every state of the reader (`step_ascii`), and any
  other byte completes characters beyond ASCII only (`Beyond.step`). `Beyond` is the INVARIANT of
  the reader: the code of an open character lies beyond ASCII and is one that characters have.
* **`infix_decodeLossy_iff`**: an ASCII text is part of a reading exactly if its bytes are part of
  what was read. `countP_decodeLossy`: and there are as many ASCII characters in it as ASCII bytes.
  `decodeLossy_append_ascii`: each of these cuts the reading in two.
-/

namespace VolumeNode.Text

/-- A character that one byte writes. -/
def IsAscii (c : Char) : Prop := c.toNat < 0x80

instance : DecidablePred IsAscii := fun c => inferInstanceAs (Decidable (c.toNat < 0x80))

theorem encode_cons_ascii {c : Char} (hc : IsAscii c) (text : List Char) :
    encode (c :: text) = UInt8.ofNat c.toNat :: encode text := by
  have hbyte : String.utf8EncodeChar c = [UInt8.ofNat c.toNat] := by
    have hle : c.val.toNat ≤ 0x7F := Nat.le_of_lt_succ hc
    unfold String.utf8EncodeChar
    rw [if_pos hle]
    rfl
  rw [encode_cons, hbyte]
  rfl

namespace Utf8

/-! ## 1. One byte -/

/-- The open character is beyond ASCII, whatever bytes complete it. -/
def Beyond : State → Prop
  | .between => True
  | .within more low high code =>
    0x80 ≤ low ∧ 0x80 ≤ (code * 64 + (low - 0x80)) * 64 ^ more ∧
      ((code * 64 + (high - 0x80) + 1) * 64 ^ more ≤ 0xD800 ∨
        0xE000 ≤ (code * 64 + (low - 0x80)) * 64 ^ more ∧
          (code * 64 + (high - 0x80) + 1) * 64 ^ more ≤ 0x110000)

theorem not_isAscii_replacement : ¬ IsAscii replacement := by
  unfold IsAscii
  decide

theorem start_ascii {b : UInt8} (hb : b.toNat < 0x80) :
    start b = ([Char.ofNat b.toNat], .between) := by
  unfold start
  dsimp only
  rw [if_pos hb]

/-- A byte that starts a character beyond ASCII, or none. -/
theorem start_high {b : UInt8} (hb : 0x80 ≤ b.toNat) :
    (∀ c ∈ (start b).1, ¬ IsAscii c) ∧ Beyond (start b).2 := by
  have hlt : b.toNat < 256 := b.toNat_lt
  unfold start
  dsimp only
  rw [if_neg (Nat.not_lt.2 hb)]
  repeat' split
  all_goals first
    | exact ⟨fun c hc => List.mem_singleton.1 hc ▸ not_isAscii_replacement, trivial⟩
    | exact ⟨nofun, by unfold Beyond; omega⟩

/-- A code that characters have is the code of its character. -/
theorem toNat_ofNat_of_valid {n : Nat} (hn : n.isValidChar) : (Char.ofNat n).toNat = n := by
  unfold Char.ofNat
  rw [dif_pos hn]
  rfl

/-- The last byte of an open character completes one beyond ASCII. -/
theorem not_isAscii_complete {low high code : Nat} (hs : Beyond (.within 0 low high code)) {n : Nat}
    (hn : low ≤ n ∧ n ≤ high) : ¬ IsAscii (Char.ofNat (code * 64 + (n - 0x80))) := by
  obtain ⟨hlow, hleast, hmost⟩ := hs
  have hvalid : (code * 64 + (n - 0x80)).isValidChar := by
    rcases hmost with hmost | ⟨hleast', hmost⟩
    · exact .inl (by omega)
    · exact .inr ⟨by omega, by omega⟩
  unfold IsAscii
  rw [toNat_ofNat_of_valid hvalid]
  omega

/-- A byte in the middle of an open character leaves it open, and as far beyond ASCII. -/
theorem beyond_continue {more low high code : Nat} (hs : Beyond (.within (more + 1) low high code))
    {n : Nat} (hn : low ≤ n ∧ n ≤ high) :
    Beyond (.within more 0x80 0xBF (code * 64 + (n - 0x80))) := by
  obtain ⟨hlow, hleast, hmost⟩ := hs
  have hpow : 64 ^ (more + 1) = 64 * 64 ^ more := Nat.pow_succ'
  have hdown : (code * 64 + (low - 0x80)) * 64 ^ (more + 1) ≤
      ((code * 64 + (n - 0x80)) * 64 + (0x80 - 0x80)) * 64 ^ more := by
    rw [hpow, ← Nat.mul_assoc]
    exact Nat.mul_le_mul_right _ (by omega)
  have hup : ((code * 64 + (n - 0x80)) * 64 + (0xBF - 0x80) + 1) * 64 ^ more ≤
      (code * 64 + (high - 0x80) + 1) * 64 ^ (more + 1) := by
    rw [hpow, ← Nat.mul_assoc]
    exact Nat.mul_le_mul_right _ (by omega)
  refine ⟨Nat.le_refl _, Nat.le_trans hleast hdown, ?_⟩
  rcases hmost with hmost | ⟨hleast', hmost⟩
  · exact .inl (Nat.le_trans hup hmost)
  · exact .inr ⟨Nat.le_trans hleast' hdown, Nat.le_trans hup hmost⟩

/-- **A byte beyond ASCII completes characters beyond ASCII only.** -/
theorem Beyond.step {s : State} (hs : Beyond s) {b : UInt8} (hb : 0x80 ≤ b.toNat) :
    (∀ c ∈ (Utf8.step s b).1, ¬ IsAscii c) ∧ Beyond (Utf8.step s b).2 := by
  cases s with
  | between => exact start_high hb
  | within more low high code =>
    by_cases hin : low ≤ b.toNat ∧ b.toNat ≤ high
    · cases more with
      | zero =>
        simp only [Utf8.step, if_pos hin]
        exact ⟨fun c hc => List.mem_singleton.1 hc ▸ not_isAscii_complete hs hin, trivial⟩
      | succ more =>
        simp only [Utf8.step, if_pos hin]
        exact ⟨fun _ hc => absurd hc List.not_mem_nil, beyond_continue hs hin⟩
    · simp only [Utf8.step, if_neg hin]
      obtain ⟨hchars, hnext⟩ := start_high hb
      refine ⟨fun c hc => ?_, hnext⟩
      rcases List.mem_cons.1 hc with rfl | hc
      · exact not_isAscii_replacement
      · exact hchars c hc

/-- What the end of the bytes completes lies beyond ASCII. -/
theorem not_isAscii_of_mem_finish {s : State} {c : Char} (h : c ∈ finish s) : ¬ IsAscii c := by
  cases s with
  | between => cases h
  | within => exact List.mem_singleton.1 h ▸ not_isAscii_replacement

/-- **An ASCII byte completes its own character**, after what the end of the bytes would
    complete. -/
theorem step_ascii {s : State} (hs : Beyond s) {b : UInt8} (hb : b.toNat < 0x80) :
    Utf8.step s b = (finish s ++ [Char.ofNat b.toNat], .between) := by
  cases s with
  | between => exact start_ascii hb
  | within more low high code =>
    have hout : ¬ (low ≤ b.toNat ∧ b.toNat ≤ high) := fun hin => by
      have hlow := hs.1
      omega
    simp only [Utf8.step, if_neg hout, start_ascii hb]
    rfl

theorem decodeFrom_ascii {b : UInt8} (hb : b.toNat < 0x80) (bytes : List UInt8) :
    decodeFrom .between (b :: bytes) = Char.ofNat b.toNat :: decodeFrom .between bytes := by
  show (start b).1 ++ decodeFrom (start b).2 bytes = _
  rw [start_ascii hb]
  rfl

/-- What an open character is read as begins beyond ASCII. -/
theorem exists_decodeFrom_within {more low high code : Nat}
    (hs : Beyond (.within more low high code)) (bytes : List UInt8) :
    ∃ c text, decodeFrom (.within more low high code) bytes = c :: text ∧ ¬ IsAscii c := by
  induction bytes generalizing more low high code with
  | nil => exact ⟨replacement, [], rfl, not_isAscii_replacement⟩
  | cons b bytes ih =>
    by_cases hin : low ≤ b.toNat ∧ b.toNat ≤ high
    · cases more with
      | zero =>
        refine ⟨_, decodeFrom .between bytes, ?_, not_isAscii_complete hs hin⟩
        simp only [decodeFrom, Utf8.step, if_pos hin]
        rfl
      | succ more =>
        simp only [decodeFrom, Utf8.step, if_pos hin, List.nil_append]
        exact ih (beyond_continue hs hin)
    · refine ⟨replacement, (start b).1 ++ decodeFrom (start b).2 bytes, ?_, not_isAscii_replacement⟩
      simp only [decodeFrom, Utf8.step, if_neg hin]
      rfl

theorem exists_decodeFrom_high {b : UInt8} (hb : 0x80 ≤ b.toNat) (bytes : List UInt8) :
    ∃ c text, decodeFrom .between (b :: bytes) = c :: text ∧ ¬ IsAscii c := by
  obtain ⟨hchars, hnext⟩ := start_high hb
  show ∃ c text, (start b).1 ++ decodeFrom (start b).2 bytes = c :: text ∧ ¬ IsAscii c
  cases hfirst : (start b).1 with
  | cons c front =>
    rw [hfirst] at hchars
    exact ⟨c, _, rfl, hchars c List.mem_cons_self⟩
  | nil =>
    cases hstate : (start b).2 with
    | within more low high code =>
      rw [hstate] at hnext
      exact exists_decodeFrom_within hnext bytes
    | between =>
      -- a byte that opens nothing is a replacement
      have hstart : ((start b).1, (start b).2) = (([] : List Char), State.between) := by
        rw [hfirst, hstate]
      unfold start at hstart
      dsimp only at hstart
      rw [if_neg (Nat.not_lt.2 hb)] at hstart
      repeat' split at hstart
      all_goals cases hstart

/-- The reader comes to no code of ASCII, whatever it reads. -/
theorem beyond_step {s : State} (hs : Beyond s) (b : UInt8) : Beyond (step s b).2 := by
  by_cases hb : b.toNat < 0x80
  · rw [step_ascii hs hb]
    trivial
  · exact (hs.step (Nat.le_of_not_lt hb)).2

/-- At an ASCII byte the reading falls into what stands before it and what stands behind it. -/
theorem decodeFrom_append_ascii {s : State} (hs : Beyond s) {b : UInt8} (hb : b.toNat < 0x80)
    (front back : List UInt8) :
    decodeFrom s (front ++ b :: back) =
      decodeFrom s front ++ Char.ofNat b.toNat :: decodeFrom .between back := by
  induction front generalizing s with
  | nil =>
    show (step s b).1 ++ decodeFrom (step s b).2 back = _
    rw [step_ascii hs hb, List.append_assoc]
    rfl
  | cons b' front ih =>
    show (step s b').1 ++ decodeFrom (step s b').2 (front ++ b :: back) =
      ((step s b').1 ++ decodeFrom (step s b').2 front) ++ _
    rw [ih (beyond_step hs b'), List.append_assoc]

/-- A byte beyond ASCII at the end is read as a character beyond ASCII. -/
theorem getLast?_decodeFrom_high {s : State} (hs : Beyond s) {b : UInt8} (hb : 0x80 ≤ b.toNat)
    (front : List UInt8) :
    ∃ c, (decodeFrom s (front ++ [b])).getLast? = some c ∧ ¬ IsAscii c := by
  induction front generalizing s with
  | nil =>
    obtain ⟨hchars, _⟩ := hs.step hb
    have hne : decodeFrom s [b] ≠ [] := by
      cases s with
      | between =>
        obtain ⟨c, text, hread, _⟩ := exists_decodeFrom_high hb []
        simp [hread]
      | within more low high code =>
        obtain ⟨c, text, hread, _⟩ := exists_decodeFrom_within hs [b]
        simp [hread]
    have hall : ∀ c ∈ decodeFrom s [b], ¬ IsAscii c := by
      intro c hc
      rcases List.mem_append.1 (show c ∈ (step s b).1 ++ finish (step s b).2 from hc) with hc | hc
      · exact hchars c hc
      · exact not_isAscii_of_mem_finish hc
    exact ⟨_, List.getLast?_eq_some_getLast hne, hall _ (List.getLast_mem hne)⟩
  | cons b' front ih =>
    obtain ⟨c, hc, hascii⟩ := ih (beyond_step hs b')
    refine ⟨c, ?_, hascii⟩
    show ((step s b').1 ++ decodeFrom (step s b').2 (front ++ [b])).getLast? = some c
    rw [List.getLast?_append, hc]
    rfl

/-! ## 2. A text in a reading -/

/-- What does not hold the first character of a part may be left out in front. -/
theorem infix_append_iff {c : Char} {part front text : List Char} (hfront : c ∉ front) :
    c :: part <:+: front ++ text ↔ c :: part <:+: text := by
  induction front with
  | nil => rfl
  | cons d front ih =>
    obtain ⟨hd, hfront⟩ := not_or.1 (mt List.mem_cons.2 hfront)
    rw [List.cons_append, List.infix_cons_iff, ih hfront, List.cons_prefix_cons]
    exact or_iff_right fun hprefix => hd hprefix.1

/-- An ASCII byte tells its character. -/
theorem ofNat_eq_iff {c : Char} (hc : IsAscii c) {b : UInt8} (hb : b.toNat < 0x80) :
    UInt8.ofNat c.toNat = b ↔ c = Char.ofNat b.toNat := by
  constructor
  · rintro rfl
    have hmod : (UInt8.ofNat c.toNat).toNat = c.toNat := by
      have hlt : c.toNat < 0x80 := hc
      simpa using Nat.mod_eq_of_lt (show c.toNat < 256 by omega)
    rw [hmod, Char.ofNat_toNat]
  · rintro rfl
    rw [toNat_ofNat_of_valid (.inl (by omega)), UInt8.ofNat_toNat]

/-- An ASCII text begins a reading exactly if its bytes begin what was read. -/
theorem prefix_decodeFrom_iff {part : List Char} (hpart : ∀ c ∈ part, IsAscii c)
    (bytes : List UInt8) : part <+: decodeFrom .between bytes ↔ encode part <+: bytes := by
  induction part generalizing bytes with
  | nil => simp
  | cons c part ih =>
    have hc : IsAscii c := hpart c List.mem_cons_self
    have hrest := ih fun d hd => hpart d (List.mem_cons_of_mem c hd)
    rw [encode_cons_ascii hc]
    cases bytes with
    | nil => simp [decodeFrom, finish]
    | cons b bytes =>
      by_cases hb : b.toNat < 0x80
      · rw [decodeFrom_ascii hb, List.cons_prefix_cons, List.cons_prefix_cons, hrest,
          ofNat_eq_iff hc hb]
      · have hhigh : 0x80 ≤ b.toNat := Nat.le_of_not_lt hb
        obtain ⟨d, text, hread, hd⟩ := exists_decodeFrom_high hhigh bytes
        rw [hread, List.cons_prefix_cons, List.cons_prefix_cons]
        refine iff_of_false (fun h => hd (h.1 ▸ hc)) fun h => hb ?_
        have hlt : c.toNat < 0x80 := hc
        rw [← h.1]
        simpa using (show c.toNat % 256 < 0x80 by omega)

/-- An ASCII text is part of a reading exactly if its bytes are part of what was read, whatever was
    open before. -/
theorem infix_decodeFrom_iff {c : Char} {part : List Char} (hpart : ∀ d ∈ c :: part, IsAscii d)
    {s : State} (hs : Beyond s) (bytes : List UInt8) :
    c :: part <:+: decodeFrom s bytes ↔ encode (c :: part) <:+: bytes := by
  have hc : IsAscii c := hpart c List.mem_cons_self
  have hskip : ∀ front : List Char, (∀ d ∈ front, ¬ IsAscii d) → c ∉ front :=
    fun front hfront hmem => hfront c hmem hc
  induction bytes generalizing s with
  | nil =>
    refine iff_of_false (fun h => ?_) fun h => ?_
    · have hmem : c ∈ finish s := h.subset List.mem_cons_self
      cases s with
      | between => cases hmem
      | within more low high code =>
        exact not_isAscii_replacement (List.mem_singleton.1 hmem ▸ hc)
    · rw [encode_cons_ascii hc] at h
      cases List.infix_nil.1 h
  | cons b bytes ih =>
    rw [List.infix_cons_iff, ← prefix_decodeFrom_iff hpart]
    show c :: part <:+: (step s b).1 ++ decodeFrom (step s b).2 bytes ↔ _
    by_cases hb : b.toNat < 0x80
    · have hstep := step_ascii hs hb
      have hrest : c :: part <:+: decodeFrom .between bytes ↔ encode (c :: part) <:+: bytes :=
        ih trivial
      rw [hstep, List.append_assoc, infix_append_iff (hskip _ fun _ => not_isAscii_of_mem_finish),
        List.singleton_append, List.infix_cons_iff, hrest, decodeFrom_ascii hb]
    · have hhigh : 0x80 ≤ b.toNat := Nat.le_of_not_lt hb
      obtain ⟨hchars, hnext⟩ := hs.step hhigh
      obtain ⟨d, text, hread, hd⟩ := exists_decodeFrom_high hhigh bytes
      have hrest : c :: part <:+: decodeFrom (step s b).2 bytes ↔ encode (c :: part) <:+: bytes :=
        ih hnext
      have hfirst : ¬ (c = d ∧ part <+: text) := fun h => hd (h.1 ▸ hc)
      rw [infix_append_iff (hskip _ hchars), hrest, hread, List.cons_prefix_cons,
        or_iff_right hfirst]

/-- As many ASCII characters are read as there are ASCII bytes, whatever was open before. -/
theorem countP_decodeFrom {s : State} (hs : Beyond s) (bytes : List UInt8) :
    (decodeFrom s bytes).countP (decide <| IsAscii ·) = bytes.countP (·.toNat < 0x80) := by
  have hnone : ∀ front : List Char, (∀ c ∈ front, ¬ IsAscii c) →
      front.countP (decide <| IsAscii ·) = 0 := fun front hfront =>
    List.countP_eq_zero.2 fun c hc => by simpa using hfront c hc
  induction bytes generalizing s with
  | nil =>
    cases s with
    | between => rfl
    | within more low high code => rfl
  | cons b bytes ih =>
    show ((step s b).1 ++ decodeFrom (step s b).2 bytes).countP _ = _
    rw [List.countP_append]
    by_cases hb : b.toNat < 0x80
    · have hascii : IsAscii (Char.ofNat b.toNat) := by
        unfold IsAscii
        rwa [toNat_ofNat_of_valid (.inl (by omega))]
      have hchar : [Char.ofNat b.toNat].countP (decide <| IsAscii ·) = 1 := by
        simpa using hascii
      rw [step_ascii hs hb, List.countP_append, hnone _ fun _ => not_isAscii_of_mem_finish, hchar,
        ih (s := .between) trivial, List.countP_cons_of_pos (by simpa using hb)]
      omega
    · obtain ⟨hchars, hnext⟩ := hs.step (Nat.le_of_not_lt hb)
      rw [hnone _ hchars, ih hnext, List.countP_cons_of_neg (by simpa using hb), Nat.zero_add]

end Utf8

/-- **A lossy reading neither hides nor makes up an ASCII text**: it holds the text exactly if the
    bytes hold its bytes, whatever else they are. -/
theorem infix_decodeLossy_iff {part : List Char} (hpart : ∀ c ∈ part, IsAscii c)
    (bytes : List UInt8) : part <:+: decodeLossy bytes ↔ encode part <:+: bytes := by
  cases part with
  | nil => exact iff_of_true (List.nil_infix) (List.nil_infix)
  | cons c part => exact Utf8.infix_decodeFrom_iff hpart (s := .between) trivial bytes

/-- An ASCII character is read exactly where its byte is. -/
theorem mem_decodeLossy_iff {c : Char} (hc : IsAscii c) (bytes : List UInt8) :
    c ∈ decodeLossy bytes ↔ UInt8.ofNat c.toNat ∈ bytes := by
  have hinfix := infix_decodeLossy_iff (List.forall_mem_singleton.2 hc) bytes
  rwa [encode_cons_ascii hc, encode_nil, List.singleton_infix_iff, List.singleton_infix_iff]
    at hinfix

/-- **An ASCII byte cuts a lossy reading in two**, whatever stands on either side of it. -/
theorem decodeLossy_append_ascii {b : UInt8} (hb : b.toNat < 0x80) (front back : List UInt8) :
    decodeLossy (front ++ b :: back) =
      decodeLossy front ++ Char.ofNat b.toNat :: decodeLossy back :=
  Utf8.decodeFrom_append_ascii (s := .between) trivial hb front back

/-- A reading ends in an ASCII character exactly if the bytes end in its byte. -/
theorem getLast?_decodeLossy_iff {c : Char} (hc : IsAscii c) (bytes : List UInt8) :
    (decodeLossy bytes).getLast? = some c ↔ bytes.getLast? = some (UInt8.ofNat c.toNat) := by
  obtain rfl | ⟨front, b, rfl⟩ := List.eq_nil_or_concat' bytes
  · simp
  rw [List.getLast?_concat, Option.some_inj]
  by_cases hb : b.toNat < 0x80
  · rw [decodeLossy_append_ascii hb, decodeLossy_nil, List.getLast?_concat, Option.some_inj,
      eq_comm, ← Utf8.ofNat_eq_iff hc hb, eq_comm]
  · obtain ⟨d, hd, hascii⟩ :=
      Utf8.getLast?_decodeFrom_high (s := .between) trivial (Nat.le_of_not_lt hb) front
    refine iff_of_false (fun h => ?_) fun h => hb ?_
    · obtain rfl : d = c := Option.some.inj (hd.symm.trans h)
      exact hascii hc
    · rw [h]
      exact Nat.lt_of_le_of_lt (Nat.mod_le _ _) hc

/-- An ASCII character is in a text exactly if its byte is among those of the text. -/
theorem mem_toList_iff {c : Char} (hc : IsAscii c) (s : String) :
    c ∈ s.toList ↔ UInt8.ofNat c.toNat ∈ bytesOf s := by
  rw [← mem_decodeLossy_iff hc]
  unfold bytesOf
  rw [decodeLossy_encode]

/-- **A lossy reading has as many ASCII characters as there are ASCII bytes.** -/
theorem countP_decodeLossy (bytes : List UInt8) :
    (decodeLossy bytes).countP (decide <| IsAscii ·) = bytes.countP (·.toNat < 0x80) :=
  Utf8.countP_decodeFrom (s := .between) trivial bytes

end VolumeNode.Text
