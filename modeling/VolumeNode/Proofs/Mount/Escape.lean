import VolumeNode.Proofs.Mount.Positions
import VolumeNode.Proofs.Text.Ascii

/-!
# What reading escapes changes

A field may be written with any of its bytes as escapes, and it is always read back; a field without
an escape is not changed by the reading.

* `Occurs` says that a text has an escape: a backslash in front of three octal digits that stand for
  a byte. This can be told from its bytes as well (`occurs_iff_bytes`).
* `ReadsAs` is the course of a reading: an escape is read where one stands, and any other byte is
  kept. Every reading takes this course (`readsAs_unescapeBytes`), so what is said about readings
  here follows by induction on it.
* The reader finds no more ASCII than there was, and each escape costs some
  (`ReadsAs.asciiBytes_lt`). The decoding keeps the count, so no text with an escape reads as itself
  (`unescape_eq_self_iff`).
* **`unescape_inverts`**: a text is read back from every way of writing its bytes with escapes, and
  the texts that read as themselves are those without an escape.
-/

namespace VolumeNode

namespace Escape

/-! ## 1. Escapes in a text -/

/-- A backslash and three digits. -/
def octal (x y z : Nat) : List Char := ['\\', digitChar x, digitChar y, digitChar z]

/-- Somewhere in a text, a backslash is followed by three octal digits, and they stand for a
    byte. -/
def Occurs (text : List Char) : Prop :=
  ∃ x y z, x < 8 ∧ y < 8 ∧ z < 8 ∧ (x * 8 + y) * 8 + z ≤ 255 ∧ octal x y z <:+: text

/-- The digits of a value are those that it was made of. -/
theorem octal_digits {x y z : Nat} (hy : y < 8) (hz : z < 8) :
    ((x * 8 + y) * 8 + z) / 64 = x ∧ ((x * 8 + y) * 8 + z) / 8 % 8 = y ∧
      ((x * 8 + y) * 8 + z) % 8 = z := by
  omega

/-- These are the escapes of bytes. -/
theorem occurs_iff {text : List Char} : Occurs text ↔ ∃ b, escapeOf b <:+: text := by
  constructor
  · intro ⟨x, y, z, _, hy, hz, hle, h⟩
    refine ⟨UInt8.ofNat ((x * 8 + y) * 8 + z), ?_⟩
    have hvalue : (UInt8.ofNat ((x * 8 + y) * 8 + z)).toNat = (x * 8 + y) * 8 + z := by
      simpa using Nat.mod_eq_of_lt (show (x * 8 + y) * 8 + z < 256 by omega)
    obtain ⟨h64, h8, h1⟩ := octal_digits (x := x) hy hz
    unfold escapeOf
    rw [hvalue, h64, h8, h1]
    exact h
  · intro ⟨b, h⟩
    have hb : b.toNat < 256 := b.toNat_lt
    exact ⟨b.toNat / 64, b.toNat / 8 % 8, b.toNat % 8, by omega, by omega, by omega, by omega, h⟩

theorem isAscii_digitChar {n : Nat} (h : n < 8) : Text.IsAscii (digitChar n) := by
  unfold Text.IsAscii digitChar
  rw [Text.Utf8.toNat_ofNat_of_valid (.inl (by omega))]
  omega

theorem isAscii_escapeOf (b : UInt8) : ∀ c ∈ escapeOf b, Text.IsAscii c := by
  have hb : b.toNat < 256 := b.toNat_lt
  unfold escapeOf
  simp only [List.forall_mem_cons]
  exact ⟨by decide, isAscii_digitChar (by omega), isAscii_digitChar (by omega),
    isAscii_digitChar (by omega), nofun⟩

/-- A text has an escape exactly if its bytes have one. -/
theorem occurs_iff_bytes {text : List Char} :
    Occurs text ↔ ∃ b, Text.encode (escapeOf b) <:+: Text.encode text := by
  rw [occurs_iff]
  refine exists_congr fun b => ?_
  rw [← Text.infix_decodeLossy_iff (isAscii_escapeOf b), Text.decodeLossy_encode]

/-! ## 2. The course of a reading -/

theorem digit?_eq_some_iff {b : UInt8} {n : Nat} :
    digit? b = some n ↔ n < 8 ∧ b = UInt8.ofNat (0x30 + n) := by
  constructor
  · intro h
    unfold digit? at h
    split at h
    · rename_i hb
      simp only [Option.some.injEq] at h
      refine ⟨by omega, ?_⟩
      rw [← h, show 0x30 + (b.toNat - 0x30) = b.toNat by omega, UInt8.ofNat_toNat]
    · cases h
  · rintro ⟨hn, rfl⟩
    exact digit?_ofNat hn

/-- Three bytes are the digits of a byte only in one way. -/
theorem byte?_eq_some_iff {a b c x : UInt8} :
    byte? a b c = some x ↔ Text.encode (escapeOf x) = [mark, a, b, c] := by
  rw [encode_escapeOf]
  constructor
  · intro h
    unfold byte? at h
    split at h
    · rename_i i j k ha hb hc
      obtain ⟨hi, rfl⟩ := digit?_eq_some_iff.1 ha
      obtain ⟨hj, rfl⟩ := digit?_eq_some_iff.1 hb
      obtain ⟨hk, rfl⟩ := digit?_eq_some_iff.1 hc
      dsimp only at h
      split at h
      · rename_i hlt
        simp only [Option.some.injEq] at h
        have hx : x.toNat = (i * 8 + j) * 8 + k := by
          rw [← h]
          simpa using Nat.mod_eq_of_lt hlt
        obtain ⟨h64, h8, h1⟩ := octal_digits (x := i) hj hk
        rw [hx, h64, h8, h1]
      · cases h
    · cases h
  · intro h
    simp only [List.cons.injEq, true_and, and_true] at h
    obtain ⟨rfl, rfl, rfl⟩ := h
    exact byte?_digits x

theorem length_encode_escapeOf (b : UInt8) : (Text.encode (escapeOf b)).length = 4 := by
  rw [encode_escapeOf]
  rfl

/-- The reader finds an escape exactly where one stands. -/
theorem leading?_eq_some_iff {bytes : List UInt8} {x : UInt8} :
    leading? bytes = some x ↔ Text.encode (escapeOf x) <+: bytes := by
  fun_cases leading? bytes with
  | case1 a b c rest =>
    rw [byte?_eq_some_iff, List.prefix_iff_eq_take, length_encode_escapeOf]
    rfl
  | case2 m a b c rest hm =>
    rw [encode_escapeOf]
    exact iff_of_false nofun fun h => hm (List.cons_prefix_cons.1 h).1.symm
  | case3 bytes hshort =>
    refine iff_of_false nofun fun ⟨rest, hrest⟩ => ?_
    rw [encode_escapeOf] at hrest
    exact hshort _ _ _ _ _ hrest.symm

/-- The course of a reading: an escape is read where one stands, and any other byte is kept. -/
inductive ReadsAs : List UInt8 → List UInt8 → Prop
  | nil : ReadsAs [] []
  | escape (b : UInt8) {text bytes : List UInt8} (h : ReadsAs text bytes) :
      ReadsAs (Text.encode (escapeOf b) ++ text) (b :: bytes)
  | kept {m : UInt8} {text bytes : List UInt8}
      (none : ∀ b, ¬ Text.encode (escapeOf b) <+: m :: text) (h : ReadsAs text bytes) :
      ReadsAs (m :: text) (m :: bytes)

/-- Every reading takes this course. -/
theorem readsAs_unescapeBytes (text : List UInt8) : ReadsAs text (unescapeBytes text) := by
  -- the bytes that are left get fewer
  induction hleft : text.length using Nat.strong_induction_on generalizing text with
  | _ left ih =>
    cases text with
    | nil => exact .nil
    | cons m rest =>
      cases hleading : leading? (m :: rest) with
      | some b =>
        rw [unescapeBytes_of_leading hleading]
        obtain ⟨rest', hrest⟩ := leading?_eq_some_iff.1 hleading
        have hdrop : (m :: rest).drop 4 = rest' := by
          rw [← hrest, List.drop_left' (length_encode_escapeOf b)]
        have hlength := congrArg List.length hrest
        rw [List.length_append, length_encode_escapeOf] at hlength
        rw [hdrop, ← hrest]
        exact .escape b (ih rest'.length (by omega) rest' rfl)
      | none =>
        rw [unescapeBytes_of_none hleading]
        refine .kept (fun b hb => ?_) (ih rest.length (by rw [← hleft]; simp) rest rfl)
        rw [leading?_eq_some_iff.2 hb] at hleading
        cases hleading

variable {text bytes : List UInt8}

/-- Where no escape stands, all bytes are kept. -/
theorem ReadsAs.eq_of_free (h : ReadsAs text bytes)
    (hfree : ∀ b, ¬ Text.encode (escapeOf b) <:+: text) : bytes = text := by
  induction h with
  | nil => rfl
  | @escape b text bytes h ih => exact absurd (List.prefix_append _ _).isInfix (hfree b)
  | @kept m text bytes none h ih =>
    rw [ih fun b hb => hfree b (hb.trans (List.suffix_cons m text).isInfix)]

/-! ## 3. ASCII in a reading -/

/-- How many bytes are ASCII. -/
def asciiBytes (bytes : List UInt8) : Nat := bytes.countP (·.toNat < 0x80)

theorem asciiBytes_cons_le (b : UInt8) (bytes : List UInt8) :
    asciiBytes (b :: bytes) ≤ asciiBytes bytes + 1 := by
  unfold asciiBytes
  rw [List.countP_cons]
  split <;> omega

/-- An escape is four bytes of ASCII. -/
theorem asciiBytes_escapeOf_append (b : UInt8) (text : List UInt8) :
    asciiBytes (Text.encode (escapeOf b) ++ text) = asciiBytes text + 4 := by
  have hcount : (Text.encode (escapeOf b)).countP (·.toNat < 0x80) = 4 := by
    rw [← Text.countP_decodeLossy, Text.decodeLossy_encode, List.countP_eq_length.2]
    · rfl
    · simpa using isAscii_escapeOf b
  unfold asciiBytes
  rw [List.countP_append, hcount, Nat.add_comm]

/-- No ASCII is made up, and each escape loses some. -/
theorem ReadsAs.asciiBytes_le (h : ReadsAs text bytes) : asciiBytes bytes ≤ asciiBytes text := by
  induction h with
  | nil => exact Nat.le_refl _
  | @escape b text bytes h ih =>
    have hcons := asciiBytes_cons_le b bytes
    rw [asciiBytes_escapeOf_append]
    omega
  | @kept m text bytes none h ih =>
    unfold asciiBytes at ih ⊢
    rw [List.countP_cons, List.countP_cons]
    omega

theorem ReadsAs.asciiBytes_lt (h : ReadsAs text bytes) {b : UInt8}
    (hb : Text.encode (escapeOf b) <:+: text) : asciiBytes bytes < asciiBytes text := by
  induction h with
  | nil =>
    have hlength := hb.length_le
    rw [length_encode_escapeOf] at hlength
    simp at hlength
  | @escape b' text bytes h ih =>
    have hcons := asciiBytes_cons_le b' bytes
    have hle := h.asciiBytes_le
    rw [asciiBytes_escapeOf_append]
    omega
  | @kept m text bytes none h ih =>
    have hrest := ih ((List.infix_cons_iff.1 hb).resolve_left (none b))
    unfold asciiBytes at hrest ⊢
    rw [List.countP_cons, List.countP_cons]
    omega

/-! ## 4. Texts -/

/-- **A text reads as itself exactly if it has no escape.** -/
theorem unescape_eq_self_iff (text : List Char) : unescape text = text ↔ ¬ Occurs text := by
  have hreads := readsAs_unescapeBytes (Text.encode text)
  rw [occurs_iff_bytes, not_exists]
  constructor
  · intro h b hb
    have hlt := hreads.asciiBytes_lt hb
    have hcount := Text.countP_decodeLossy (unescapeBytes (Text.encode text))
    rw [show Text.decodeLossy (unescapeBytes (Text.encode text)) = text from h] at hcount
    have hself := Text.countP_decodeLossy (Text.encode text)
    rw [Text.decodeLossy_encode] at hself
    unfold asciiBytes at hlt
    omega
  · intro hfree
    unfold unescape
    rw [hreads.eq_of_free hfree, Text.decodeLossy_encode]

/-- **Reading undoes every way of writing bytes with escapes, and changes exactly the texts that
    have an escape.** -/
theorem unescape_inverts :
    (∀ s written : List Char, Spells (Text.encode written) (Text.encode s) → unescape written = s) ∧
      ∀ text : List Char, unescape text = text ↔ ¬ Occurs text := by
  refine ⟨fun s written h => ?_, unescape_eq_self_iff⟩
  unfold unescape
  rw [unescapeBytes_of_spells h, Text.decodeLossy_encode]

/-- Two letters beyond ASCII, a backslash and a blank. -/
def spelledText : List Char := ['/', '\u00E9', '\u00FC', '\\', ' ']

/-- The same with both bytes of the first letter as escapes, and with an escape at the end. -/
def mixedSpelling : List Char :=
  ['/'] ++ octal 3 0 3 ++ octal 2 5 1 ++ ['\u00FC'] ++ octal 1 3 4 ++ octal 0 4 0

/-- Values beyond a byte, a digit that is not octal, and an escape that is cut short. -/
def brokenEscapes : List Char :=
  octal 4 0 0 ++ octal 7 7 7 ++ ['\\', '1', '8', '0', '\\', '0', '4']

theorem unescape_inverts_mixedSpelling :
    (Spells (Text.encode mixedSpelling) (Text.encode spelledText) ∧
      unescape mixedSpelling = spelledText) ∧
    ¬ Occurs brokenEscapes ∧ unescape brokenEscapes = brokenEscapes := by
  have hspells : Spells (Text.encode mixedSpelling) (Text.encode spelledText) :=
    .plain (by decide) (.escaped 0xC3 (.escaped 0xA9 (.plain (by decide) (.plain (by decide)
      (.escaped mark (.escaped 0x20 .nil))))))
  have hself : unescape brokenEscapes = brokenEscapes := by decide
  exact ⟨⟨hspells, unescape_inverts.1 _ _ hspells⟩, (unescape_inverts.2 _).1 hself, hself⟩

end Escape

end VolumeNode
