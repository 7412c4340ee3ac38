import VolumeNode.Mount.Escape
import VolumeNode.Mount.Entry
import VolumeNode.Text.Blank

/-!
# Reading the mount table

The table is text, one mount a line; the fields of a line stand between blanks:

```text
41 28 8:16 / /srv/data rw,noatime shared:7 - ext4 /dev/sdb rw
```

The fourth field is the root of the mount within its filesystem, the fifth the directory it is
mounted on, the sixth its options. Then comes any number of optional fields, up to a field `-`;
behind it stand the type of the filesystem and the device.

* `readLine` reads one line, `readTable` the whole text. Lines of blanks are skipped, and the first
  bad line makes the whole table unreadable (`LineFault`).
* The source of a placeholder is the node below `/dev` that its root names (`sourceOf`).
-/

namespace VolumeNode.MountTable

/-- Why a line is no mount. -/
inductive LineFault where
  /-- No separator stands behind the sixth field. -/
  | missingSeparator (line : List Char)
  /-- Less than two fields stand behind the separator. -/
  | truncated (line : List Char)
deriving DecidableEq, Repr

/-- The text of an error. -/
def LineFault.message : LineFault → String
  | .missingSeparator line => "missing separator in line: " ++ String.ofList line
  | .truncated line => "truncated line: " ++ String.ofList line

/-- The field between the optional fields and the filesystem. -/
def separator : List Char := ['-']

/-- The options of a field. -/
def readOptions (field : List Char) : List String :=
  (Text.splitOn (· == ',') field).map String.ofList

/-- What is mounted by an entry with this device and root. -/
def sourceOf (device root : List Char) : List Char :=
  if MountEntry.placeholders.contains (String.ofList device) && root != ['/'] then
    ['/', 'd', 'e', 'v'] ++ root
  else device

/-- The entry of the fields that matter. -/
def entryOf (root path options fsType device : List Char) : MountEntry :=
  let device := Escape.unescape device
  { device := String.ofList device
    source := String.ofList (sourceOf device (Escape.unescape root))
    path := String.ofList (Escape.unescape path)
    fsType := String.ofList fsType
    options := readOptions options }

/-- Reads one line. -/
def readLine (line : List Char) : Except LineFault MountEntry :=
  match Text.words line with
  | _ :: _ :: _ :: root :: path :: options :: more =>
    match more.dropWhile (· != separator) with
    | [] => .error (.missingSeparator line)
    | _ :: fsType :: device :: _ => .ok (entryOf root path options fsType device)
    | _ => .error (.truncated line)
  | _ => .error (.missingSeparator line)

/-- Reads the lines of a table up to the first bad one. -/
def readLines : List (List Char) → Except LineFault (List MountEntry)
  | [] => .ok []
  | line :: rest =>
    match readLine line with
    | .error e => .error e
    | .ok entry => (readLines rest).map (entry :: ·)

/-- The lines that are not blank. -/
def entryLines (content : List Char) : List (List Char) :=
  (Text.lines content).filter (! Text.isBlankText ·)

/-- Reads a table. -/
def readTable (content : String) : Except LineFault (List MountEntry) :=
  readLines (entryLines content.toList)

end VolumeNode.MountTable
