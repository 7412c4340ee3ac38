import VolumeNode.Text.PrintTable

/-!
# Quoted text

A text between double quotes, as error reports show it. A quote and a backslash take a backslash,
NUL, tab, carriage return and line feed have short forms, and every other character that is not
shown as it is (`hiddenRanges`) stands as its code point in hexadecimal between braces.
-/

namespace VolumeNode.Text

/-- The digits of a number in base 16, in small letters. -/
def hexDigits (n : Nat) : List Char :=
  Nat.toDigits 16 n

/-- One character within quotes. -/
def quoteChar (c : Char) : List Char :=
  if c = '\x00' then ['\\', '0']
  else if c = '\t' then ['\\', 't']
  else if c = '\r' then ['\\', 'r']
  else if c = '\n' then ['\\', 'n']
  else if c = '\\' then ['\\', '\\']
  else if c = '"' then ['\\', '"']
  else if inRanges hiddenRanges c.toNat then
    ['\\', 'u', '\x7b'] ++ hexDigits c.toNat ++ ['\x7d']
  else [c]

/-- A string within quotes. -/
def quote (s : String) : String :=
  String.ofList ('"' :: s.toList.flatMap quoteChar ++ ['"'])

end VolumeNode.Text
