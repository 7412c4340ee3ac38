import VolumeNode.Proofs.Mount.Separator

/-!
# Reading the mount table by positions

The mount table read with every word and every byte looked up by its position. A position behind the
end gives no answer at all (`none`), so an answer says that all positions were in range.

* `Escape.unescapeFrom` reads escapes from a position on; `Escape.unescapeFrom_eq` says that it
  gives an answer, and which one.
* `MountTable.lineAt` looks for the separator and takes the fields from the positions around it. It
  answers as `readLine` does (`MountTable.lineAt_eq`), since a separator with two words behind it
  has six in front.
* **`MountTable.tableAt_eq`**: so every text is read without a position out of range.
-/

namespace VolumeNode

/-! ## 1. Escapes -/

namespace Escape

variable {bytes : List UInt8} {i : Nat}

/-- The byte of the escape that some bytes start with. -/
def leading? : List UInt8 → Option UInt8
  | m :: a :: b :: c :: _ => if m = mark then byte? a b c else none
  | _ => none

theorem unescapeBytes_of_leading {byte : UInt8} (h : leading? bytes = some byte) :
    unescapeBytes bytes = byte :: unescapeBytes (bytes.drop 4) := by
  match bytes, h with
  | m :: a :: b :: c :: rest, h =>
    rw [leading?] at h
    by_cases hm : m = mark
    · rw [if_pos hm] at h
      rw [unescapeBytes, if_pos hm, h]
      rfl
    · rw [if_neg hm] at h
      cases h

theorem unescapeBytes_of_none {m : UInt8} {rest : List UInt8} (h : leading? (m :: rest) = none) :
    unescapeBytes (m :: rest) = m :: unescapeBytes rest := by
  match rest, h with
  | [], _ => rfl
  | [_], _ => rfl
  | [_, _], _ => rfl
  | a :: b :: c :: rest, h =>
    by_cases hm : m = mark
    · rw [leading?, if_pos hm] at h
      rw [unescapeBytes, if_pos hm, h]
    · exact unescapeBytes_of_ne hm _

/-- The byte of the escape at a position, if there is one. -/
def escapeAt (bytes : List UInt8) (i : Nat) : Option (Option UInt8) := do
  if (← bytes[i]?) = mark ∧ i + 3 < bytes.length then
    return byte? (← bytes[i + 1]?) (← bytes[i + 2]?) (← bytes[i + 3]?)
  else return none

/-- Reads the escapes from a position on. -/
def unescapeFrom (bytes : List UInt8) (i : Nat) : Option (List UInt8) :=
  if i < bytes.length then do
    match ← escapeAt bytes i with
    | some byte => return byte :: (← unescapeFrom bytes (i + 4))
    | none => return (← bytes[i]?) :: (← unescapeFrom bytes (i + 1))
  else some []
termination_by bytes.length - i

/-- A field after its escapes are read by positions. -/
def unescapeAt (field : List Char) : Option (List Char) :=
  (unescapeFrom (Text.encode field) 0).map Text.decodeLossy

/-- Three more bytes are looked at only where they are. -/
theorem escapeAt_eq (h : i < bytes.length) : escapeAt bytes i = some (leading? (bytes.drop i)) := by
  unfold escapeAt
  rw [List.getElem?_eq_getElem h, List.drop_eq_getElem_cons h]
  by_cases hlong : i + 3 < bytes.length
  · have h1 : i + 1 < bytes.length := by omega
    have h2 : i + 2 < bytes.length := by omega
    rw [List.drop_eq_getElem_cons h1, List.drop_eq_getElem_cons h2, List.drop_eq_getElem_cons hlong,
      List.getElem?_eq_getElem h1, List.getElem?_eq_getElem h2, List.getElem?_eq_getElem hlong]
    by_cases hm : bytes[i] = mark
    · simp [leading?, hm, hlong]
    · simp [leading?, hm]
  · have hshort : (bytes.drop (i + 1)).length < 3 := by
      rw [List.length_drop]
      omega
    have hnone : leading? (bytes[i] :: bytes.drop (i + 1)) = none := by
      match bytes.drop (i + 1), hshort with
      | [], _ => rfl
      | [_], _ => rfl
      | [_, _], _ => rfl
    rw [hnone]
    simp [hlong]

/-- **Escapes are read from any position on, without a look behind the end.** -/
theorem unescapeFrom_eq (bytes : List UInt8) (i : Nat) :
    unescapeFrom bytes i = some (unescapeBytes (bytes.drop i)) := by
  -- the bytes that are left get fewer
  induction hleft : bytes.length - i using Nat.strong_induction_on generalizing i with
  | _ left ih =>
    unfold unescapeFrom
    by_cases hi : i < bytes.length
    · rw [if_pos hi, escapeAt_eq hi]
      cases hleading : leading? (bytes.drop i) with
      | some byte =>
        have hrest := ih _ (by omega) (i + 4) rfl
        rw [unescapeBytes_of_leading hleading, List.drop_drop]
        simp [hrest]
      | none =>
        have hrest := ih _ (by omega) (i + 1) rfl
        rw [List.drop_eq_getElem_cons hi] at hleading ⊢
        rw [unescapeBytes_of_none hleading]
        simp [hrest, hi]
    · rw [if_neg hi, List.drop_eq_nil_of_le (by omega)]
      rfl

theorem unescapeAt_eq (field : List Char) : unescapeAt field = some (unescape field) := by
  unfold unescapeAt
  rw [unescapeFrom_eq]
  rfl

end Escape

/-! ## 2. Lines -/

namespace MountTable

variable {ws : List (List Char)} {n : Nat}

/-- The position of the separator. -/
def separatorAt? (ws : List (List Char)) : Option Nat :=
  ((ws.drop 6).findIdx? (· == separator)).map (· + 6)

theorem separatorAt?_eq_some_iff {i : Nat} : separatorAt? ws = some i ↔ SeparatorAt ws i := by
  unfold separatorAt?
  rw [Option.map_eq_some_iff]
  simp only [List.findIdx?_eq_some_iff_getElem]
  constructor
  · intro ⟨n, ⟨hn, hhere, hfirst⟩, hi⟩
    subst hi
    rw [List.getElem_drop, beq_iff_eq] at hhere
    rw [List.length_drop] at hn
    refine ⟨by omega, List.getElem?_eq_some_iff.2 ⟨by omega, ?_⟩, fun j hbehind hj => ?_⟩
    · simpa [Nat.add_comm] using hhere
    · obtain ⟨k, rfl⟩ := Nat.exists_eq_add_of_le hbehind
      have hother := hfirst k (by omega)
      rw [List.getElem_drop, beq_iff_eq] at hother
      intro hsep
      obtain ⟨_, hsame⟩ := List.getElem?_eq_some_iff.1 hsep
      exact hother hsame
  · intro h
    obtain ⟨k, rfl⟩ := Nat.exists_eq_add_of_le h.behind
    obtain ⟨hk, hhere⟩ := List.getElem?_eq_some_iff.1 h.here
    refine ⟨k, ⟨by rw [List.length_drop]; omega, ?_, fun j hj => ?_⟩, Nat.add_comm _ _⟩
    · rw [List.getElem_drop, beq_iff_eq]
      exact hhere
    · rw [List.getElem_drop, beq_iff_eq]
      intro hsep
      exact h.first (6 + j) (by omega) (by omega) (List.getElem?_eq_some_iff.2 ⟨_, hsep⟩)

theorem separatorAt?_eq_none_iff : separatorAt? ws = none ↔ ¬ ∃ i, SeparatorAt ws i := by
  rw [Option.eq_none_iff_forall_ne_some]
  simp only [ne_eq, separatorAt?_eq_some_iff, not_exists]

/-- Reads one line by positions. -/
def lineAt (line : List Char) : Option (Except LineFault MountEntry) :=
  let fields := Text.words line
  match separatorAt? fields with
  | none => some (.error (.missingSeparator line))
  | some middle =>
    if fields.length < middle + 3 then some (.error (.truncated line))
    else do
      let root ← Escape.unescapeAt (← fields[3]?)
      let path ← Escape.unescapeAt (← fields[4]?)
      let options := readOptions (← fields[5]?)
      let fsType := String.ofList (← fields[middle + 1]?)
      let device ← Escape.unescapeAt (← fields[middle + 2]?)
      let source := String.ofList (sourceOf device root)
      return .ok ⟨String.ofList device, source, String.ofList path, fsType, options⟩

/-- **A line is read without a position out of range.** -/
theorem lineAt_eq (line : List Char) : lineAt line = some (readLine line) := by
  unfold lineAt
  dsimp only
  cases hsep : separatorAt? (Text.words line) with
  | none =>
    have hfault : Faulty line (.missingSeparator line) :=
      .unseparated (separated_iff.not.2 (separatorAt?_eq_none_iff.1 hsep))
    rw [readLine_eq_error_iff.2 hfault]
  | some i =>
    dsimp only
    have hi := separatorAt?_eq_some_iff.1 hsep
    by_cases hshort : (Text.words line).length < i + 3
    · have hcut : ¬ Complete (Text.words line) := by
        intro ⟨j, hj, hlong⟩
        cases hi.unique hj
        omega
      have hfault : Faulty line (.truncated line) := .short (separated_iff.2 ⟨i, hi⟩) hcut
      rw [readLine_eq_error_iff.2 hfault]
      exact if_pos hshort
    · have hbehind := hi.behind
      have hroot := List.getElem?_eq_getElem (l := Text.words line) (i := 3) (by omega)
      have hpath := List.getElem?_eq_getElem (l := Text.words line) (i := 4) (by omega)
      have hoptions := List.getElem?_eq_getElem (l := Text.words line) (i := 5) (by omega)
      have hfsType := List.getElem?_eq_getElem (l := Text.words line) (i := i + 1) (by omega)
      have hdevice := List.getElem?_eq_getElem (l := Text.words line) (i := i + 2) (by omega)
      have hread := readLine_eq_ok_iff_entryAt.2
        ⟨i, _, _, _, _, _, hi, hroot, hpath, hoptions, hfsType, hdevice, shows_entryOf _ _ _ _ _⟩
      rw [hread, hroot, hpath, hoptions, hfsType, hdevice]
      simp only [if_neg hshort, Escape.unescapeAt_eq]
      rfl

/-! ## 3. Tables -/

/-- Reads lines by positions, up to the first bad one. -/
def linesAt : List (List Char) → Option (Except LineFault (List MountEntry))
  | [] => some (.ok [])
  | line :: rest => do
    match ← lineAt line with
    | .error fault => return .error fault
    | .ok entry => return (← linesAt rest).map (entry :: ·)

/-- Reads a table by positions. -/
def tableAt (content : String) : Option (Except LineFault (List MountEntry)) :=
  linesAt (entryLines content.toList)

theorem linesAt_eq (lines : List (List Char)) : linesAt lines = some (readLines lines) := by
  induction lines with
  | nil => rfl
  | cons line rest ih =>
    unfold linesAt readLines
    rw [lineAt_eq, ih]
    cases readLine line with
    | error fault => rfl
    | ok entry => rfl

/-- **Every text is read without a position out of range.** -/
theorem tableAt_eq (content : String) : tableAt content = some (readTable content) :=
  linesAt_eq _

end MountTable

end VolumeNode
