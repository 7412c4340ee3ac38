import VolumeNode.Text.Utf8

/-!
# Octal escapes

The fields of a mount table line write a byte as a backslash and three octal digits where it could
be taken for a separator.

* `unescapeBytes` reads the escapes among some bytes; what does not have the form of an escape, or
  stands for no byte, is kept as it is.
* `unescape` reads the escapes of a field and decodes the bytes.
* `Spells` are all ways of writing bytes with escapes: a backslash needs one, any other byte may
  have one. Reading gives the bytes back from each of them (`unescapeBytes_of_spells`).
* `escape` writes some characters of a text as escapes, and `unescape` reads the text back
  (`unescape_escape`).
-/

namespace VolumeNode.Escape

/-! ## 1. Reading -/

/-- The byte that opens an escape. -/
def mark : UInt8 := 0x5C

/-- The value of an octal digit. -/
def digit? (b : UInt8) : Option Nat :=
  if 0x30 ≤ b.toNat ∧ b.toNat ≤ 0x37 then some (b.toNat - 0x30) else none

/-- The byte that three octal digits stand for. -/
def byte? (a b c : UInt8) : Option UInt8 :=
  match digit? a, digit? b, digit? c with
  | some x, some y, some z =>
    let n := (x * 8 + y) * 8 + z
    if n < 256 then some (UInt8.ofNat n) else none
  | _, _, _ => none

/-- The bytes after the escapes among them are read. -/
def unescapeBytes : List UInt8 → List UInt8
  | [] => []
  | m :: a :: b :: c :: rest =>
    if m = mark then
      match byte? a b c with
      | some byte => byte :: unescapeBytes rest
      | none => m :: unescapeBytes (a :: b :: c :: rest)
    else m :: unescapeBytes (a :: b :: c :: rest)
  | b :: rest => b :: unescapeBytes rest

/-- A field after its escapes are read. -/
def unescape (field : List Char) : List Char :=
  Text.decodeLossy (unescapeBytes (Text.encode field))

theorem unescapeBytes_of_ne {m : UInt8} (h : m ≠ mark) (rest : List UInt8) :
    unescapeBytes (m :: rest) = m :: unescapeBytes rest := by
  match rest with
  | [] => rfl
  | [_] => rfl
  | [_, _] => rfl
  | _ :: _ :: _ :: _ => rw [unescapeBytes, if_neg h]

/-! ## 2. Writing -/

/-- The character of an octal digit. -/
def digitChar (n : Nat) : Char := Char.ofNat (0x30 + n)

/-- A byte as an escape. -/
def escapeOf (b : UInt8) : List Char :=
  ['\\', digitChar (b.toNat / 64), digitChar (b.toNat / 8 % 8), digitChar (b.toNat % 8)]

/-- A text with some of its characters as escapes of their bytes. -/
def escape (chosen : Char → Bool) (text : List Char) : List Char :=
  text.flatMap fun c => if chosen c then (Text.encode [c]).flatMap escapeOf else [c]

/-- `Spells text bytes`: the first bytes write the second ones, each as an escape or as itself, but
    a backslash always as an escape. -/
inductive Spells : List UInt8 → List UInt8 → Prop
  | nil : Spells [] []
  | plain {b : UInt8} {text bytes : List UInt8} (hb : b ≠ mark) (h : Spells text bytes) :
      Spells (b :: text) (b :: bytes)
  | escaped (b : UInt8) {text bytes : List UInt8} (h : Spells text bytes) :
      Spells (Text.encode (escapeOf b) ++ text) (b :: bytes)

/-! ## 3. Reading what was written -/

/-- The byte of an octal digit. -/
theorem encode_digitChar {n : Nat} (h : n < 8) :
    String.utf8EncodeChar (digitChar n) = [UInt8.ofNat (0x30 + n)] := by
  have : n = 0 ∨ n = 1 ∨ n = 2 ∨ n = 3 ∨ n = 4 ∨ n = 5 ∨ n = 6 ∨ n = 7 := by omega
  rcases this with rfl | rfl | rfl | rfl | rfl | rfl | rfl | rfl <;> decide

theorem digit?_ofNat {n : Nat} (h : n < 8) : digit? (UInt8.ofNat (0x30 + n)) = some n := by
  have e : (UInt8.ofNat (0x30 + n)).toNat = 0x30 + n := by
    simpa using Nat.mod_eq_of_lt (show 0x30 + n < 256 by omega)
  unfold digit?
  rw [if_pos (by omega), e]
  simp

/-- The bytes of an escape. -/
theorem encode_escapeOf (b : UInt8) :
    Text.encode (escapeOf b) =
      [mark, UInt8.ofNat (0x30 + b.toNat / 64), UInt8.ofNat (0x30 + b.toNat / 8 % 8),
        UInt8.ofNat (0x30 + b.toNat % 8)] := by
  have hb : b.toNat < 256 := b.toNat_lt
  simp only [escapeOf, Text.encode_cons, Text.encode_nil,
    encode_digitChar (show b.toNat / 64 < 8 by omega),
    encode_digitChar (show b.toNat / 8 % 8 < 8 by omega),
    encode_digitChar (show b.toNat % 8 < 8 by omega)]
  rfl

/-- The digits of an escape stand for its byte. -/
theorem byte?_digits (b : UInt8) :
    byte? (UInt8.ofNat (0x30 + b.toNat / 64)) (UInt8.ofNat (0x30 + b.toNat / 8 % 8))
      (UInt8.ofNat (0x30 + b.toNat % 8)) = some b := by
  have hb : b.toNat < 256 := b.toNat_lt
  have e : (b.toNat / 64 * 8 + b.toNat / 8 % 8) * 8 + b.toNat % 8 = b.toNat := by omega
  simp only [byte?, digit?_ofNat (show b.toNat / 64 < 8 by omega),
    digit?_ofNat (show b.toNat / 8 % 8 < 8 by omega),
    digit?_ofNat (show b.toNat % 8 < 8 by omega), e, if_pos hb, UInt8.ofNat_toNat]

theorem unescapeBytes_escapeOf_append (b : UInt8) (rest : List UInt8) :
    unescapeBytes (Text.encode (escapeOf b) ++ rest) = b :: unescapeBytes rest := by
  simp only [encode_escapeOf, List.cons_append, List.nil_append, unescapeBytes, if_true,
    byte?_digits]

/-- **Every way of writing bytes with escapes is read back.** -/
theorem unescapeBytes_of_spells {text bytes : List UInt8} (h : Spells text bytes) :
    unescapeBytes text = bytes := by
  induction h with
  | nil => rfl
  | plain hb _ ih => rw [unescapeBytes_of_ne hb, ih]
  | escaped b _ ih => rw [unescapeBytes_escapeOf_append, ih]

theorem Spells.append {s t a b : List UInt8} (h : Spells s a) (h' : Spells t b) :
    Spells (s ++ t) (a ++ b) := by
  induction h with
  | nil => exact h'
  | plain hb _ ih => exact .plain hb ih
  | escaped b _ ih => rw [List.append_assoc]; exact .escaped b ih

/-- Bytes without a backslash may be written as they are. -/
theorem spells_self {bytes : List UInt8} (h : mark ∉ bytes) : Spells bytes bytes := by
  induction bytes with
  | nil => exact .nil
  | cons b bytes ih =>
    rw [List.mem_cons, not_or] at h
    exact .plain (Ne.symm h.1) (ih h.2)

/-- All bytes may be escaped. -/
theorem spells_escapes (bytes : List UInt8) :
    Spells (Text.encode (bytes.flatMap escapeOf)) bytes := by
  induction bytes with
  | nil => exact .nil
  | cons b bytes ih =>
    rw [List.flatMap_cons, Text.encode_append]
    exact .escaped b ih

/-- The byte of a backslash occurs in no other character. -/
theorem eq_of_mark_mem {c : Char} (h : mark ∈ String.utf8EncodeChar c) : c = '\\' := by
  have hm : ∀ k : Nat, k < 256 → (mark = UInt8.ofNat k ↔ k = 0x5C) := by
    intro k hk
    constructor
    · intro h
      have := congrArg UInt8.toNat h
      simp only [UInt8.toNat_ofNat', Nat.mod_eq_of_lt hk] at this
      exact this.symm
    · rintro rfl
      rfl
  unfold String.utf8EncodeChar at h
  simp only at h
  split at h
  · rename_i hc
    rw [List.mem_singleton, hm _ (by omega)] at h
    exact Char.toNat_inj.1 h
  · exfalso
    split at h
    · simp only [List.mem_cons, List.not_mem_nil, or_false] at h
      rcases h with h | h <;> rw [hm _ (by omega)] at h <;> omega
    · split at h
      · simp only [List.mem_cons, List.not_mem_nil, or_false] at h
        rcases h with h | h | h <;> rw [hm _ (by omega)] at h <;> omega
      · simp only [List.mem_cons, List.not_mem_nil, or_false] at h
        rcases h with h | h | h | h <;> rw [hm _ (by omega)] at h <;> omega

/-- Escaping characters writes their bytes, if backslashes are among the chosen ones. -/
theorem spells_escape {chosen : Char → Bool} (h : chosen '\\' = true) (text : List Char) :
    Spells (Text.encode (escape chosen text)) (Text.encode text) := by
  induction text with
  | nil => exact .nil
  | cons c text ih =>
    have e : escape chosen (c :: text) =
        (if chosen c then (Text.encode [c]).flatMap escapeOf else [c]) ++ escape chosen text := rfl
    rw [e, Text.encode_append, show c :: text = [c] ++ text from rfl, Text.encode_append]
    refine Spells.append ?_ ih
    by_cases hc : chosen c = true
    · rw [if_pos hc]
      exact spells_escapes _
    · rw [if_neg hc]
      refine spells_self fun hm => hc ?_
      rw [Text.encode_cons, Text.encode_nil, List.append_nil] at hm
      rw [eq_of_mark_mem hm, h]

/-- **A text is read back from its escaped form.** -/
theorem unescape_escape {chosen : Char → Bool} (h : chosen '\\' = true) (text : List Char) :
    unescape (escape chosen text) = text := by
  rw [unescape, unescapeBytes_of_spells (spells_escape h text), Text.decodeLossy_encode]

end VolumeNode.Escape
