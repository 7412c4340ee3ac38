/-!
# Text as UTF-8 bytes

Names in a file tree, mount table fields and the output of tools are bytes, while requests and
answers are text. This module goes between the two.

* `encode` writes a text as its UTF-8 bytes, `decodeLossy` reads bytes as text. What is not UTF-8
  reads as U+FFFD, one for each longest stretch that could still have become a character.
* The reader is a machine (`Utf8.State`, `Utf8.step`): between two characters, or within one, where
  it knows the range of the next byte, how many follow, and the code collected so far.
* `decodeFrom_append` cuts a run in two; `decodeLossy_encode_append` says that a text in front of
  any bytes is read back as it is, so `decodeLossy` undoes `encode` (`decodeLossy_encode`).
-/

namespace VolumeNode.Text

/-! ## 1. Writing -/

/-- The UTF-8 bytes of a text. -/
def encode (text : List Char) : List UInt8 :=
  text.flatMap String.utf8EncodeChar

@[simp] theorem encode_nil : encode [] = [] := rfl

@[simp] theorem encode_cons (c : Char) (text : List Char) :
    encode (c :: text) = String.utf8EncodeChar c ++ encode text := rfl

@[simp] theorem encode_append (s t : List Char) : encode (s ++ t) = encode s ++ encode t := by
  simp [encode]

/-! ## 2. The reader -/

/-- What stands for bytes that are not UTF-8. -/
def replacement : Char := '\uFFFD'

namespace Utf8

/-- Where the reader is. -/
inductive State where
  /-- Between two characters. -/
  | between
  /-- Within a character: the next byte lies in `low … high`, `more` bytes follow it, and `code`
      holds the bits read so far. -/
  | within (more : Nat) (low high : Nat) (code : Nat)
deriving DecidableEq, Repr

/-- A byte in front of which no character is open. -/
def start (b : UInt8) : List Char × State :=
  let n := b.toNat
  if n < 0x80 then ([Char.ofNat n], .between)
  else if n < 0xC2 then ([replacement], .between)
  else if n < 0xE0 then ([], .within 0 0x80 0xBF (n - 0xC0))
  else if n = 0xE0 then ([], .within 1 0xA0 0xBF 0)
  else if n = 0xED then ([], .within 1 0x80 0x9F 0xD)
  else if n < 0xF0 then ([], .within 1 0x80 0xBF (n - 0xE0))
  else if n = 0xF0 then ([], .within 2 0x90 0xBF 0)
  else if n < 0xF4 then ([], .within 2 0x80 0xBF (n - 0xF0))
  else if n = 0xF4 then ([], .within 2 0x80 0x8F 4)
  else ([replacement], .between)

/-- Reads one byte: the text it completes, and where the reader is afterwards. A byte that cannot
    continue the open character ends it as a replacement and is then read afresh. -/
def step : State → UInt8 → List Char × State
  | .between, b => start b
  | .within more low high code, b =>
    if low ≤ b.toNat ∧ b.toNat ≤ high then
      match more with
      | 0 => ([Char.ofNat (code * 64 + (b.toNat - 0x80))], .between)
      | more + 1 => ([], .within more 0x80 0xBF (code * 64 + (b.toNat - 0x80)))
    else (replacement :: (start b).1, (start b).2)

/-- The text that the end of the bytes completes. -/
def finish : State → List Char
  | .between => []
  | .within .. => [replacement]

/-- Reads bytes from a given place on. -/
def decodeFrom : State → List UInt8 → List Char
  | s, [] => finish s
  | s, b :: bytes => (step s b).1 ++ decodeFrom (step s b).2 bytes

/-- Where the reader is after some bytes. -/
def stateAfter : State → List UInt8 → State
  | s, [] => s
  | s, b :: bytes => stateAfter (step s b).2 bytes

/-- The text completed by some bytes, their end not counted. -/
def completed : State → List UInt8 → List Char
  | _, [] => []
  | s, b :: bytes => (step s b).1 ++ completed (step s b).2 bytes

/-- A run may be cut anywhere. -/
theorem decodeFrom_append (s : State) (front back : List UInt8) :
    decodeFrom s (front ++ back) = completed s front ++ decodeFrom (stateAfter s front) back := by
  induction front generalizing s with
  | nil => rfl
  | cons b front ih => simp [decodeFrom, completed, stateAfter, ih]

/-- The bytes of one character complete that character, and nothing stays open. -/
theorem completed_char (c : Char) :
    completed .between (String.utf8EncodeChar c) = [c] ∧
      stateAfter .between (String.utf8EncodeChar c) = .between := by
  obtain ⟨v, hv⟩ := c
  have hn : v.toNat < 0xD800 ∨ 0xDFFF < v.toNat ∧ v.toNat < 0x110000 := hv
  have hc : ∀ k : Nat, k = v.toNat → Char.ofNat k = ⟨v, hv⟩ := by
    intro k hk
    subst hk
    exact Char.ofNat_toNat ⟨v, hv⟩
  unfold String.utf8EncodeChar
  simp only
  have hmod : ∀ k : Nat, k < 256 → (UInt8.ofNat k).toNat = k := by
    intro k hk
    simpa using Nat.mod_eq_of_lt hk
  generalize hvn : v.toNat = n at hn hc
  split
  · rename_i h
    simp only [completed, stateAfter, step, start, hmod n (by omega)]
    simp [show n < 128 by omega, hc n rfl]
  split
  · rename_i h1 h
    have e1 : (UInt8.ofNat (n / 64 % 32 + 192)).toNat = n / 64 % 32 + 192 := hmod _ (by omega)
    have e2 : (UInt8.ofNat (n % 64 + 128)).toNat = n % 64 + 128 := hmod _ (by omega)
    have s1 : start (UInt8.ofNat (n / 64 % 32 + 192)) =
        ([], .within 0 0x80 0xBF (n / 64 % 32)) := by
      simp only [start, e1]
      rw [if_neg (by omega), if_neg (by omega), if_pos (by omega)]
      simp
    simp only [completed, stateAfter, step, s1, e2]
    rw [if_pos (by omega), hc _ (by omega)]
    simp
  split
  · rename_i h1 h2 h
    have e1 : (UInt8.ofNat (n / 4096 % 16 + 224)).toNat = n / 4096 % 16 + 224 := hmod _ (by omega)
    have e2 : (UInt8.ofNat (n / 64 % 64 + 128)).toNat = n / 64 % 64 + 128 := hmod _ (by omega)
    have e3 : (UInt8.ofNat (n % 64 + 128)).toNat = n % 64 + 128 := hmod _ (by omega)
    have s1 : ∃ low high, start (UInt8.ofNat (n / 4096 % 16 + 224)) =
        ([], .within 1 low high (n / 4096 % 16)) ∧ low ≤ n / 64 % 64 + 128 ∧
          n / 64 % 64 + 128 ≤ high := by
      simp only [start, e1]
      rw [if_neg (by omega), if_neg (by omega), if_neg (by omega)]
      by_cases h0 : n / 4096 % 16 = 0
      · rw [if_pos (by omega), h0]
        exact ⟨_, _, rfl, by omega, by omega⟩
      by_cases hd : n / 4096 % 16 = 13
      · rw [if_neg (by omega), if_pos (by omega), hd]
        exact ⟨_, _, rfl, by omega, by omega⟩
      · rw [if_neg (by omega), if_neg (by omega), if_pos (by omega)]
        exact ⟨128, 191, by simp, by omega, by omega⟩
    obtain ⟨low, high, s1, hl, hh⟩ := s1
    simp only [completed, stateAfter, step, s1, e2]
    rw [if_pos ⟨hl, hh⟩]
    simp only [e3]
    rw [if_pos (by omega), hc _ (by omega)]
    simp
  · rename_i h1 h2 h3
    have e1 : (UInt8.ofNat (n / 262144 % 8 + 240)).toNat = n / 262144 % 8 + 240 := hmod _ (by omega)
    have e2 : (UInt8.ofNat (n / 4096 % 64 + 128)).toNat = n / 4096 % 64 + 128 := hmod _ (by omega)
    have e3 : (UInt8.ofNat (n / 64 % 64 + 128)).toNat = n / 64 % 64 + 128 := hmod _ (by omega)
    have e4 : (UInt8.ofNat (n % 64 + 128)).toNat = n % 64 + 128 := hmod _ (by omega)
    have s1 : ∃ low high, start (UInt8.ofNat (n / 262144 % 8 + 240)) =
        ([], .within 2 low high (n / 262144 % 8)) ∧ low ≤ n / 4096 % 64 + 128 ∧
          n / 4096 % 64 + 128 ≤ high := by
      simp only [start, e1]
      rw [if_neg (by omega), if_neg (by omega), if_neg (by omega), if_neg (by omega),
        if_neg (by omega), if_neg (by omega)]
      by_cases h0 : n / 262144 % 8 = 0
      · rw [if_pos (by omega), h0]
        exact ⟨_, _, rfl, by omega, by omega⟩
      by_cases hd : n / 262144 % 8 = 4
      · rw [if_neg (by omega), if_neg (by omega), if_pos (by omega), hd]
        exact ⟨_, _, rfl, by omega, by omega⟩
      · rw [if_neg (by omega), if_pos (by omega)]
        exact ⟨128, 191, by simp, by omega, by omega⟩
    obtain ⟨low, high, s1, hl, hh⟩ := s1
    simp only [completed, stateAfter, step, s1, e2]
    rw [if_pos ⟨hl, hh⟩]
    simp only [e3]
    rw [if_pos (by omega)]
    simp only [e4]
    rw [if_pos (by omega), hc _ (by omega)]
    simp

end Utf8

open Utf8

/-- Reads bytes as text; each longest stretch that is no UTF-8 becomes one replacement. -/
def decodeLossy (bytes : List UInt8) : List Char :=
  decodeFrom .between bytes

@[simp] theorem decodeLossy_nil : decodeLossy [] = [] := rfl

/-- **A text in front of any bytes is read back as it is.** -/
theorem decodeLossy_encode_append (text : List Char) (bytes : List UInt8) :
    decodeLossy (encode text ++ bytes) = text ++ decodeLossy bytes := by
  induction text with
  | nil => rfl
  | cons c text ih =>
    obtain ⟨h, h'⟩ := completed_char c
    rw [encode_cons, List.append_assoc, decodeLossy, decodeFrom_append, h, h']
    exact congrArg (c :: ·) ih

/-- **Reading undoes writing.** -/
@[simp] theorem decodeLossy_encode (text : List Char) : decodeLossy (encode text) = text := by
  simpa using decodeLossy_encode_append text []

/-! ## 3. Strings -/

/-- The UTF-8 bytes of a string. -/
def bytesOf (s : String) : List UInt8 :=
  encode s.toList

/-- The string that bytes read as. -/
def ofBytes (bytes : List UInt8) : String :=
  String.ofList (decodeLossy bytes)

@[simp] theorem ofBytes_bytesOf (s : String) : ofBytes (bytesOf s) = s := by
  simp [ofBytes, bytesOf]

theorem bytesOf_append (s t : String) : bytesOf (s ++ t) = bytesOf s ++ bytesOf t := by
  unfold bytesOf
  rw [String.toList_append, encode_append]

/-- Different strings have different bytes. -/
theorem bytesOf_inj {s t : String} (h : bytesOf s = bytesOf t) : s = t := by
  simpa using congrArg ofBytes h

end VolumeNode.Text
