import VolumeNode.Text.CaseTable

/-!
# Lower case

The full lower-case mapping of Unicode, free of any locale.

* `lowerChar` is the lower case of one character alone; only U+0130 has two characters.
* `toLower` maps a text. A capital sigma at the end of a word becomes the final sigma: in front of
  it, case-ignorable characters skipped, stands a cased character, and behind it none
  (`startsCased`).
-/

namespace VolumeNode.Text

/-- The lower case that a run gives a code point. -/
def LowerRun.lower? (run : LowerRun) (n : Nat) : Option Nat :=
  if run.first ≤ n ∧ n ≤ run.last ∧ (n - run.first) % run.step = 0 then
    some (n + run.shift).toNat
  else none

/-- The lower case of one character, taken alone. -/
def lowerChar (c : Char) : List Char :=
  if c = '\u0130' then ['i', '\u0307']
  else
    match lowerRuns.findSome? (·.lower? c.toNat) with
    | some n => [Char.ofNat n]
    | none => [c]

/-- Whether a character is cased and not case-ignorable. -/
def isCased (c : Char) : Bool :=
  inRanges casedRanges c.toNat

/-- Whether a character is skipped in the search for a cased neighbour. -/
def isCaseIgnorable (c : Char) : Bool :=
  inRanges caseIgnorableRanges c.toNat

/-- Whether the first character that is not case-ignorable is cased. -/
def startsCased (text : List Char) : Bool :=
  match text.dropWhile isCaseIgnorable with
  | [] => false
  | c :: _ => isCased c

/-- The lower case of `text`, where `before` holds the characters in front of it, last first. -/
def lowerFrom (before : List Char) : List Char → List Char
  | [] => []
  | c :: rest =>
    let lowered :=
      if c = 'Σ' then
        if startsCased before && !startsCased rest then ['ς'] else ['σ']
      else lowerChar c
    lowered ++ lowerFrom (c :: before) rest

/-- The lower case of a text. -/
def toLower (text : List Char) : List Char :=
  lowerFrom [] text

@[simp] theorem toLower_nil : toLower [] = [] := rfl

end VolumeNode.Text
